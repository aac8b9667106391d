import ColumnSelection.Proofs.Compiling
import ColumnSelection.Proofs.LineReading

/-!
# Lines of an operator and one word

A line of an operator and one word behind it is always a step in line syntax. It compiles to what
the operator makes of the configuration that the word spells, once the variables are replaced; a
word that cannot do without a variable makes the line faulty, and the program fails in either mode.
-/
namespace ColumnSelection

namespace Operator

theorem snakeCase_letter_eq {c : Char} (hupper : c.isUpper = false) (hhyphen : c ≠ '-')
    (behind : Bool) : snakeCase.letter behind c = [c] := by
  rw [snakeCase.letter, if_neg (by simp [hupper]), if_neg hhyphen]

/-- Without capital letters and hyphens a name is spelled as it is written. -/
theorem snakeCase_eq_self {s : List Char} (h : ∀ c ∈ s, c.isUpper = false ∧ c ≠ '-') :
    snakeCase s = s := by
  cases s with
  | nil => rfl
  | cons c rest =>
    rw [List.forall_mem_cons] at h
    have hrest : rest.flatMap (snakeCase.letter true) = rest.flatMap fun c => [c] :=
      List.flatMap_congr fun d hd => snakeCase_letter_eq (h.2 d hd).1 (h.2 d hd).2 true
    rw [snakeCase, snakeCase_letter_eq h.1.1 h.1.2, hrest, List.flatMap_singleton',
      List.singleton_append]

/-- The names of operators have no blanks, capital letters or hyphens. -/
theorem plain_of_mem_word (o : Operator) :
    ∀ c ∈ o.word.toList, Text.isBlank c = false ∧ c.isUpper = false ∧ c ≠ '-' := by
  have hall :
      o.word.toList.all (fun c => !Text.isBlank c && (!c.isUpper && c != '-')) = true := by
    cases o <;> decide
  simpa using hall

theorem not_isBlank_of_mem_word (o : Operator) : ∀ c ∈ o.word.toList, Text.isBlank c = false :=
  fun c hc => (o.plain_of_mem_word c hc).1

theorem word_ne_empty (o : Operator) : o.word ≠ "" := by
  cases o <;> decide

/-- The name of an operator is read as that operator, without a notice. -/
theorem lookup_word (o : Operator) : lookup o.word = some ⟨o, false⟩ := by
  have htrim : Text.trim o.word = o.word := by
    rw [← String.toList_inj, Text.toList_trim]
    exact Text.trimBy_eq_self_of_forall o.not_isBlank_of_mem_word
  have hcase : snakeCase o.word.toList = o.word.toList :=
    snakeCase_eq_self fun c hc => (o.plain_of_mem_word c hc).2
  have hdeprecated : deprecated.lookup o.word = none := by
    cases o <;> decide
  have hsynonym : synonyms.lookup o.word = none := by
    cases o <;> decide
  have hfind : (sources ++ refinements).find? (fun other => other.word == o.word) = some o := by
    cases o <;> decide
  rw [lookup, htrim, hcase, String.ofList_toList, hdeprecated, hsynonym, hfind]
  rfl

/-- No operator begins like a document, a comment or a variable, or the other way round. -/
theorem word_unlike_marks (o : Operator) :
    ∀ mark ∈ ["\x7b", "[", "steps:", "selection:", "- ", "#", "//", "$"],
      ¬ mark.toList <+: o.word.toList ∧ ¬ o.word.toList <+: mark.toList := by
  cases o <;> decide

end Operator

namespace Program

open Reader

/-- A text that is one word of a line and does not begin a document. -/
structure IsLineWord (w : String) : Prop where
  nonempty : w ≠ ""
  plain : ∀ c ∈ w.toList, Text.isBlank c = false
  head : ∀ c ∈ w.toList.head?, c ≠ '{'

section words

variable {w : String}

theorem IsLineWord.isEmpty_toList (hw : IsLineWord w) : w.toList.isEmpty = false := by
  simpa [List.isEmpty_iff, String.toList_eq_nil_iff] using hw.nonempty

theorem words_eq_singleton (hw : IsLineWord w) : Text.words w = [w] := by
  rw [Text.words, Text.pieces_eq_singleton hw.plain]
  simp [hw.isEmpty_toList]

theorem lineConfig_word (hw : IsLineWord w) : lineConfig w = .ok (inlineConfig w) := by
  have hbrace : ¬ Text.startsWith w "\x7b" := by
    rw [Text.startsWith, List.isPrefixOf_iff_prefix]
    rintro ⟨rest, hrest⟩
    exact hw.head '{' (by rw [← hrest]; rfl) rfl
  rw [lineConfig, if_neg (by simpa [String.isEmpty_iff] using hw.nonempty), if_neg hbrace]

/-- A word with an equality sign behind a key sets that key. -/
theorem inlineConfig_setting (hw : IsLineWord w) {c : Char} {key value : List Char}
    (h : Text.splitOnce? '=' w.toList = some (c :: key, value)) :
    inlineConfig w = .obj [(String.ofList (c :: key), listLiteral value)] := by
  simp [inlineConfig, words_eq_singleton hw, readWords, h, Entries.put]

/-- A word without an equality sign gives positional arguments. -/
theorem inlineConfig_arguments (hw : IsLineWord w) (hequals : '=' ∉ w.toList)
    (hpieces : commaPieces w.toList ≠ []) :
    inlineConfig w = .obj [("args", .arr ((commaPieces w.toList).map literal))] := by
  simp [inlineConfig, words_eq_singleton hw, readWords, Text.splitOnce?_eq_none hequals, hpieces,
    Entries.put]

theorem commaPieces_eq_singleton (hw : IsLineWord w) (hcomma : ',' ∉ w.toList) :
    commaPieces w.toList = [w.toList] := by
  have hpieces : Text.pieces (· == ',') w.toList = [w.toList] := by
    refine Text.pieces_eq_singleton fun c hc => beq_eq_false_iff_ne.mpr ?_
    rintro rfl
    exact hcomma hc
  rw [commaPieces, hpieces]
  simp [hw.isEmpty_toList]

end words

section lines

variable {w : String} (hw : IsLineWord w) (o : Operator)

include hw

theorem separable_word : Separable o.word w where
  operator_ne := o.word_ne_empty
  noBlank := o.not_isBlank_of_mem_word
  text_ne := hw.nonempty
  trimmed := by
    rw [← String.toList_inj, Text.toList_trim, Text.trimBy_eq_self_of_forall hw.plain]

theorem readStepLine_word (r : Reader) (bindings : Bindings) :
    r.readStepLine bindings (o.word ++ " " ++ w) = do
      return ⟨o.word, ← r.settle bindings (inlineConfig w)⟩ := by
  rw [(separable_word hw o).readStepLine_eq, lineConfig_word hw]
  rfl

/-- The line is never taken for a document, a comment or a variable, and it is faulty only when its
word needs a variable. -/
theorem read_word (strict : Bool) :
    (ofMode strict).read (o.word ++ " " ++ w) =
      match substitute [] (inlineConfig w) with
      | .ok config => .ok ⟨⟨[⟨o.word, config⟩]⟩, [], []⟩
      | .error e =>
        if strict then .error (.validation (.stepLine 1 e.message))
        else .ok ⟨⟨[]⟩, [s!"Line {1}: {e.message}"], []⟩ := by
  have hnewline : '\n' ∉ (o.word ++ " " ++ w).toList := by
    have hfeed : Text.isBlank '\n' = true := by decide
    rw [toList_stepLine, List.mem_append, List.mem_cons, not_or, not_or]
    refine ⟨fun hmem => ?_, by decide, fun hmem => ?_⟩
    · simp [o.not_isBlank_of_mem_word _ hmem] at hfeed
    · simp [hw.plain _ hmem] at hfeed
  have hnever : ∀ mark ∈ ["\x7b", "[", "steps:", "selection:", "- ", "#", "//", "$"],
      ¬ mark.toList <+: (o.word ++ " " ++ w).toList := by
    intro mark hmark hstart
    rw [toList_stepLine] at hstart
    obtain ⟨hword, hmark⟩ := o.word_unlike_marks mark hmark
    rcases List.prefix_or_prefix_of_prefix hstart (List.prefix_append _ _) with h | h
    · exact hword h
    · exact hmark h
  have hnonempty : o.word ++ " " ++ w ≠ "" := by
    simp [← String.toList_eq_nil_iff]
  have hsettle : (ofMode strict).settle (ofMode strict).bindings (inlineConfig w) =
      substitute [] (inlineConfig w) := rfl
  rw [read_stepLine hnonempty hnewline (separable_word hw o).trim_line hnever,
    readStepLine_word hw, hsettle]
  cases substitute [] (inlineConfig w) <;> rfl

/-- What a line of an operator and one word compiles to. -/
theorem compileSource_word (strict : Bool) :
    compileSource strict (o.word ++ " " ++ w) =
      match substitute [] (inlineConfig w) with
      | .ok config => applyOperator (compile strict) none o config
      | .error e =>
        if strict then Logged.fail (.validation (.stepLine 1 e.message))
        else ⟨.error (.validation .programWithoutOperators),
          [.programWarning s!"Line {1}: {e.message}"]⟩ := by
  have hread := read_word hw o strict
  cases hsubstitute : substitute [] (inlineConfig w) with
  | ok config =>
    rw [hsubstitute] at hread
    have hcompile : compile strict ⟨[⟨o.word, config⟩]⟩ =
        applyOperator (compile strict) none o config := compile_singleton o.lookup_word
    rw [compileSource_of_read hread, hcompile]
    rfl
  | error e =>
    rw [hsubstitute] at hread
    cases strict with
    | true =>
      rw [compileSource, hread]
      rfl
    | false =>
      rw [compileSource_of_read hread]
      rfl

/-- A line of one word compiles when its variables can be replaced and its operator compiles. -/
theorem outcome_compileSource_word_eq_ok_iff {strict : Bool} {set : Selection} :
    (compileSource strict (o.word ++ " " ++ w)).outcome = .ok set ↔
      ∃ config, substitute [] (inlineConfig w) = .ok config ∧
        (applyOperator (compile strict) none o config).outcome = .ok set := by
  rw [compileSource_word hw]
  cases substitute [] (inlineConfig w) with
  | ok config => simp
  | error e => cases strict <;> simp

end lines

end Program

end ColumnSelection
