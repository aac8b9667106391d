import ColumnSelection.Proofs.WordLines

/-!
# Words that name columns

On a line a word without a quote is read as a literal before it names a column, and is written out
again as a name: truth values and null are refused, and a number names the column of its own decimal
text. All other words, and the numbers written as they are printed, name what they spell.
-/
namespace ColumnSelection

namespace Program

open Numeric Reader

/-- A word of a line that is neither a list, a setting, a quoted text, a variable nor a document. -/
structure IsBareWord (t : String) : Prop where
  nonempty : t ≠ ""
  plain : ∀ c ∈ t.toList, Text.isBlank c = false ∧ c ≠ ',' ∧ c ≠ '=' ∧ isQuote c = false
  head : ∀ c ∈ t.toList.head?, c ≠ '$' ∧ c ≠ '{'

instance : DecidablePred IsBareWord := fun t =>
  decidable_of_iff
    (t ≠ "" ∧
      (t.toList.all fun c =>
        Text.isBlank c = false ∧ c ≠ ',' ∧ c ≠ '=' ∧ isQuote c = false) = true ∧
      (t.toList.head?.all fun c => c ≠ '$' ∧ c ≠ '{') = true) <| by
    simp only [List.all_eq_true, Option.all_eq_true, decide_eq_true_iff]
    exact ⟨fun ⟨hnonempty, hplain, hhead⟩ => ⟨hnonempty, hplain, hhead⟩,
      fun ht => ⟨ht.nonempty, ht.plain, ht.head⟩⟩

/-- A word that is written as the literal that it is read as: not one of the words for a truth value
or null, and as a number the text of that number. -/
structure SpellsItself (t : String) : Prop where
  noKeyword : t ∉ ["true", "false", "null"]
  whole : ∀ n, readInt64? t.toList = some n → toString n = t
  decimal : ∀ x, readInt64? t.toList = none → readFloat? t.toList = some (.finite x) →
    x.spell Json.floatLayout = t

variable {t : String}

section literals

theorem IsBareWord.opensQuoted_eq_false (ht : IsBareWord t) : opensQuoted t.toList = false := by
  cases hs : t.toList with
  | nil => rfl
  | cons c rest => exact (ht.plain c (hs ▸ List.mem_cons_self)).2.2.2

/-- A word names itself as a literal exactly if it spells itself. -/
theorem nameOf_literal_eq_ok_iff (hquote : opensQuoted t.toList = false) :
    nameOf (literal t.toList) = .ok t ↔ SpellsItself t := by
  have hkeywords : ∀ word ∈ ["true", "false", "null"],
      readInt64? word.toList = none ∧ readFloat? word.toList = none := by decide
  rw [literal, String.ofList_toList, if_neg (by simp [hquote])]
  cases hint : readInt64? t.toList with
  | some n =>
    constructor
    · intro h
      have hn : toString n = t := Except.ok.inj h
      refine ⟨fun hmem => ?_, fun n' hn' => ?_, fun x hnone => ?_⟩
      · rw [(hkeywords t hmem).1] at hint
        cases hint
      · rw [hint] at hn'
        obtain rfl := Option.some.inj hn'
        exact hn
      · rw [hint] at hnone
        cases hnone
    · intro h
      exact congrArg Except.ok (h.whole n hint)
  | none =>
    have hspells (hmem : t ∉ ["true", "false", "null"])
        (hdecimal : ∀ x, readFloat? t.toList = some (.finite x) → x.spell Json.floatLayout = t) :
        SpellsItself t := by
      refine ⟨hmem, fun n hn => ?_, fun x _ => hdecimal x⟩
      rw [hint] at hn
      cases hn
    cases hfloat : readFloat? t.toList with
    | none =>
      have hno : ∀ x, readFloat? t.toList ≠ some (.finite x) := by
        intro x hx
        rw [hfloat] at hx
        cases hx
      dsimp only
      split_ifs with htrue hfalse hnull
      · exact iff_of_false (by rintro ⟨⟩) fun h => h.noKeyword (by simp [htrue])
      · exact iff_of_false (by rintro ⟨⟩) fun h => h.noKeyword (by simp [hfalse])
      · exact iff_of_false (by rintro ⟨⟩) fun h => h.noKeyword (by simp [hnull])
      · refine iff_of_true rfl (hspells ?_ fun x hx => absurd hx (hno x))
        simp [htrue, hfalse, hnull]
    | some value =>
      have hmem : t ∉ ["true", "false", "null"] := by
        intro hmem
        rw [(hkeywords t hmem).2] at hfloat
        cases hfloat
      cases value with
      | finite x =>
        constructor
        · intro h
          refine hspells hmem fun y hy => ?_
          rw [hfloat] at hy
          cases hy
          exact Except.ok.inj h
        · intro h
          exact congrArg Except.ok (h.decimal x hint hfloat)
      | infinite negative =>
        refine iff_of_true rfl (hspells hmem fun y hy => ?_)
        rw [hfloat] at hy
        cases hy
      | notANumber =>
        refine iff_of_true rfl (hspells hmem fun y hy => ?_)
        rw [hfloat] at hy
        cases hy

theorem texts_literal (hquote : opensQuoted t.toList = false) :
    ∀ s ∈ (literal t.toList).texts, s = t := by
  rw [literal, String.ofList_toList, if_neg (by simp [hquote])]
  split
  · simp [Json.texts]
  · split
    · simp [Json.texts]
    · simp [Json.texts]
    · split_ifs <;> simp [Json.texts]

section head

variable {c : Char} {rest : List Char} (hdigit : c.isDigit = false) (hsign : c ∉ ['+', '-', '.'])

include hsign in
theorem splitSign_cons : splitSign (c :: rest) = (false, c :: rest) := by
  unfold splitSign
  split
  · rename_i heq
    cases heq
    simp at hsign
  · rename_i heq
    cases heq
    simp at hsign
  · rfl

include hdigit in
theorem readDigits?_cons : readDigits? (c :: rest) = none := by
  simp [readDigits?, hdigit]

include hdigit hsign in
theorem readDecimal?_cons : readDecimal? (c :: rest) = none := by
  unfold readDecimal?
  rw [List.takeWhile_cons_of_neg (by simp [hdigit]), List.dropWhile_cons_of_neg (by simp [hdigit])]
  dsimp only
  split
  · rename_i heq
    cases heq
    simp at hsign
  · rfl

end head

/-- Words that begin with neither a digit nor a sign nor a point are no numbers, so they spell
themselves unless they stand for a truth value or null. -/
theorem spellsItself_of_head {c : Char} {rest : List Char} (hword : t.toList = c :: rest)
    (hdigit : c.isDigit = false) (hsign : c ∉ ['+', '-', '.'])
    (hkeyword : t ∉ ["true", "false", "null"]) : SpellsItself t := by
  refine ⟨hkeyword, fun n hn => ?_, fun x _ hx => ?_⟩
  · rw [hword, readInt64?, splitSign_cons hsign] at hn
    dsimp only at hn
    rw [readDigits?_cons hdigit] at hn
    cases hn
  · rw [hword, readFloat?, splitSign_cons hsign] at hx
    dsimp only at hx
    rw [readDecimal?_cons hdigit hsign] at hx
    -- Without digits only the words for infinities and for no number are left.
    dsimp only at hx
    split_ifs at hx <;> cases hx

end literals

section lines

/-- The configuration of a line with one such word. -/
def wordConfig (t : String) : Json :=
  .obj [("args", .arr [literal t.toList])]

theorem IsBareWord.isLineWord (ht : IsBareWord t) : IsLineWord t where
  nonempty := ht.nonempty
  plain := fun c hc => (ht.plain c hc).1
  head := fun c hc => (ht.head c hc).2

theorem inlineConfig_bareWord (ht : IsBareWord t) : inlineConfig t = wordConfig t := by
  have hequals : '=' ∉ t.toList := fun hmem => (ht.plain '=' hmem).2.2.1 rfl
  have hcomma : ',' ∉ t.toList := fun hmem => (ht.plain ',' hmem).2.1 rfl
  have hpieces := commaPieces_eq_singleton ht.isLineWord hcomma
  rw [inlineConfig_arguments ht.isLineWord hequals (by simp [hpieces]), hpieces]
  rfl

theorem substitute_wordConfig (ht : IsBareWord t) :
    substitute [] (wordConfig t) = .ok (wordConfig t) := by
  refine substitute_nil.mpr ⟨rfl, fun s hs => ?_⟩
  have hmem : s ∈ (literal t.toList).texts := by
    simpa [wordConfig, Json.texts, Json.textsOfFields, Json.textsOfItems] using hs
  obtain rfl := texts_literal ht.opensQuoted_eq_false s hmem
  exact not_needsVariable_of_head fun c hc => (ht.head c hc).1

theorem compileSource_operator_bareWord (ht : IsBareWord t) (strict : Bool) (o : Operator) :
    compileSource strict (o.word ++ " " ++ t) =
      applyOperator (compile strict) none o (wordConfig t) := by
  rw [compileSource_word ht.isLineWord, inlineConfig_bareWord ht, substitute_wordConfig ht]

end lines

section selections

variable {strict : Bool}

/-- The columns of a line of names are those that its words name as literals. -/
theorem compileSource_cols_bareWord (ht : IsBareWord t) :
    compileSource strict ("cols " ++ t) = do
      return .columns [.name (← Logged.ofExcept (nameOf (literal t.toList)))] := by
  have hsource : "cols " ++ t = Operator.cols.word ++ " " ++ t := rfl
  rw [hsource, compileSource_operator_bareWord ht]
  change startSelection (compile strict) .cols (wordConfig t) = _
  rw [startSelection]
  change (Logged.ofExcept ([literal t.toList].mapM nameOf) >>= _) = _
  rw [List.mapM_cons, List.mapM_nil]
  cases nameOf (literal t.toList) <;> rfl

theorem compileSource_except_bareWord (ht : IsBareWord t) :
    compileSource strict ("except " ++ t) = do
      return .except .all (.columns [.name (← Logged.ofExcept (nameOf (literal t.toList)))]) := by
  have hsource : "except " ++ t = Operator.except.word ++ " " ++ t := rfl
  rw [hsource, compileSource_operator_bareWord ht]
  have hinner : innerSelection? (compile strict) (wordConfig t) (arguments [] (wordConfig t)) = do
      return some (.columns [.name (← Logged.ofExcept (nameOf (literal t.toList)))]) := by
    change (Logged.ofExcept ([literal t.toList].mapM nameOf) >>= _) = _
    rw [List.mapM_cons, List.mapM_nil]
    cases nameOf (literal t.toList) <;> rfl
  change refine (compile strict) .except (wordConfig t) .all = _
  rw [refine, innerSelection, hinner]
  cases nameOf (literal t.toList) <;> rfl

/-- A word that spells itself names the column that it spells, for a selection as well as for an
exclusion. -/
theorem compileSource_bareWord (ht : IsBareWord t) (hspells : SpellsItself t) (strict : Bool) :
    compileSource strict ("cols " ++ t) = Logged.ok (.columns [.name t]) ∧
      compileSource strict ("except " ++ t) =
        Logged.ok (.except .all (.columns [.name t])) := by
  have hname := (nameOf_literal_eq_ok_iff ht.opensQuoted_eq_false).mpr hspells
  constructor
  · rw [compileSource_cols_bareWord ht, hname]
    rfl
  · rw [compileSource_except_bareWord ht, hname]
    rfl

/-- A name with a hyphen, an accent and a digit. -/
theorem compileSource_bareWord_accent :
    let t := "prix-été2"
    IsBareWord t ∧ SpellsItself t ∧
      compileSource true ("cols " ++ t) = Logged.ok (.columns [.name t]) ∧
      compileSource true ("except " ++ t) = Logged.ok (.except .all (.columns [.name t])) := by
  intro t
  have ht : IsBareWord t := by decide
  have hword : t.toList = 'p' :: "rix-été2".toList := by decide
  have hspells : SpellsItself t :=
    spellsItself_of_head hword (by decide) (by decide) (by decide)
  exact ⟨ht, hspells, compileSource_bareWord ht hspells true⟩

/-- A word for a truth value is refused as a name, and a number with zeros in front names another
column than the one that is spelled. -/
theorem compileSource_bareWord_true_and_zeros :
    IsBareWord "true" ∧ IsBareWord "007" ∧
      (compileSource false ("cols " ++ "true")).outcome =
        .error (.validation (.notAName "true")) ∧
      compileSource false ("cols " ++ "007") = Logged.ok (.columns [.name "7"]) ∧
      compileSource false ("except " ++ "007") =
        Logged.ok (.except .all (.columns [.name "7"])) := by
  have htrue : IsBareWord "true" := by decide
  have hseven : IsBareWord "007" := by decide
  refine ⟨htrue, hseven, ?_, ?_, ?_⟩
  · rw [compileSource_cols_bareWord htrue]
    rfl
  · rw [compileSource_cols_bareWord hseven]
    rfl
  · rw [compileSource_except_bareWord hseven]
    rfl

end selections

end Program

end ColumnSelection
