import ColumnSelection.Program.Reader
import ColumnSelection.Proofs.Outcome
import ColumnSelection.Proofs.TextPieces
import ColumnSelection.Proofs.ValueSize

/-!
# Reading one step

Without variables a step is read as it is written: its configuration is left alone, or refused when
one of its texts needs a variable. The configuration is then no larger than what it was read from,
also when that is a line whose words are sorted into settings and arguments.
-/
namespace ColumnSelection

namespace Json

mutual

/-- The strings in a value, at every depth; keys are left out. -/
def texts : Json → List String
  | .str s => [s]
  | .arr items => textsOfItems items
  | .obj fields => textsOfFields fields
  | .null | .bool _ | .int _ | .float _ => []
termination_by structural j => j

@[inherit_doc texts]
def textsOfItems : List Json → List String
  | [] => []
  | j :: rest => texts j ++ textsOfItems rest
termination_by structural items => items

@[inherit_doc texts]
def textsOfFields : List (String × Json) → List String
  | [] => []
  | (_, j) :: rest => texts j ++ textsOfFields rest
termination_by structural fields => fields

end

end Json

namespace Program

/-- A text that has to be replaced by the value of a variable. -/
def NeedsVariable (s : String) : Prop :=
  ∃ name, variableUse s = .required name

theorem singleton_suffix_iff {c : Char} {s : List Char} : [c] <:+ s ↔ s.getLast? = some c := by
  rw [List.getLast?_eq_some_iff]
  exact exists_congr fun front => eq_comm

/-- A text needs a variable when it stands between a dollar sign with a brace and a brace. -/
theorem needsVariable_iff (s : String) :
    NeedsVariable s ↔ Text.startsWith s "$\x7b" ∧ Text.endsWith s "\x7d" := by
  have hdollar : "$\x7b".toList = ['$', '{'] := rfl
  have hbrace : "\x7d".toList = ['}'] := rfl
  rw [NeedsVariable, variableUse, Text.startsWith, Text.endsWith, List.isPrefixOf_iff_prefix,
    List.isSuffixOf_iff_suffix, hdollar, hbrace]
  split
  · rename_i rest hs
    have hlast : ['}'] <:+ '$' :: '{' :: rest ↔ rest.getLast? = some '}' := by
      simp [List.suffix_cons_iff, singleton_suffix_iff]
    rw [hs, hlast]
    split_ifs with h <;> simp [h]
  · rename_i rest hrest hs
    rw [hs]
    constructor
    · rintro ⟨name, ⟨⟩⟩
    · rintro ⟨⟨more, hmore⟩, -⟩
      exact absurd (List.cons_inj_right '$' |>.mp hmore).symm (hrest more)
  · rename_i hs
    constructor
    · rintro ⟨name, ⟨⟩⟩
    · rintro ⟨⟨more, hmore⟩, -⟩
      exact absurd hmore.symm (hs ('{' :: more))

theorem not_needsVariable_of_head {s : String} (h : ∀ c ∈ s.toList.head?, c ≠ '$') :
    ¬ NeedsVariable s := by
  rw [needsVariable_iff, Text.startsWith, List.isPrefixOf_iff_prefix]
  rintro ⟨⟨rest, hrest⟩, -⟩
  exact h '$' (by rw [← hrest]; rfl) rfl

theorem variableUse_eq_none_iff {s : String} :
    variableUse s = .none ↔ s.toList.head? ≠ some '$' := by
  rw [variableUse]
  cases s.toList with
  | nil => exact iff_of_true rfl nofun
  | cons c rest =>
    rw [List.head?_cons, ne_eq, Option.some_inj]
    by_cases hc : c = '$'
    · subst hc
      refine iff_of_false ?_ (not_not_intro rfl)
      split <;> rename_i heq
      · split_ifs <;> rintro ⟨⟩
      · rintro ⟨⟩
      · exact absurd rfl (heq rest)
    · refine iff_of_true ?_ hc
      split <;> rename_i heq
      · exact absurd (List.cons.inj heq).1 hc
      · exact absurd (List.cons.inj heq).1 hc
      · rfl

theorem substituteText_nil {s : String} {j : Json} :
    substituteText [] s = .ok j ↔ j = .str s ∧ ¬ NeedsVariable s := by
  rw [substituteText, NeedsVariable]
  cases variableUse s with
  | required name => simp [Entries.get?]
  | optional name => simp [Entries.get?, eq_comm]
  | none => simp [eq_comm]

mutual

theorem substitute_nil : ∀ {j j' : Json},
    substitute [] j = .ok j' ↔ j' = j ∧ ∀ s ∈ j.texts, ¬ NeedsVariable s
  | .str s, j' => by
    rw [substitute, substituteText_nil, Json.texts, List.forall_mem_singleton]
  | .arr items, j' => by
    simp only [substitute, bind_eq_ok, substituteItems_nil, Json.texts]
    constructor
    · rintro ⟨_, ⟨rfl, h⟩, ⟨⟩⟩
      exact ⟨rfl, h⟩
    · rintro ⟨rfl, h⟩
      exact ⟨items, ⟨rfl, h⟩, rfl⟩
  | .obj fields, j' => by
    simp only [substitute, bind_eq_ok, substituteFields_nil, Json.texts]
    constructor
    · rintro ⟨_, ⟨rfl, h⟩, ⟨⟩⟩
      exact ⟨rfl, h⟩
    · rintro ⟨rfl, h⟩
      exact ⟨fields, ⟨rfl, h⟩, rfl⟩
  | .null, _ => by simp [substitute, Json.texts, eq_comm]
  | .bool _, _ => by simp [substitute, Json.texts, eq_comm]
  | .int _, _ => by simp [substitute, Json.texts, eq_comm]
  | .float _, _ => by simp [substitute, Json.texts, eq_comm]
termination_by structural j => j

theorem substituteItems_nil : ∀ {items items' : List Json},
    substituteItems [] items = .ok items' ↔
      items' = items ∧ ∀ s ∈ Json.textsOfItems items, ¬ NeedsVariable s
  | [], _ => by simp [substituteItems, Json.textsOfItems, eq_comm]
  | j :: rest, items' => by
    simp only [substituteItems, bind_eq_ok, substitute_nil, substituteItems_nil, Json.textsOfItems,
      List.forall_mem_append]
    constructor
    · rintro ⟨_, ⟨rfl, hj⟩, _, ⟨rfl, hrest⟩, ⟨⟩⟩
      exact ⟨rfl, hj, hrest⟩
    · rintro ⟨rfl, hj, hrest⟩
      exact ⟨j, ⟨rfl, hj⟩, rest, ⟨rfl, hrest⟩, rfl⟩
termination_by structural items => items

theorem substituteFields_nil : ∀ {fields fields' : List (String × Json)},
    substituteFields [] fields = .ok fields' ↔
      fields' = fields ∧ ∀ s ∈ Json.textsOfFields fields, ¬ NeedsVariable s
  | [], _ => by simp [substituteFields, Json.textsOfFields, eq_comm]
  | (k, j) :: rest, fields' => by
    simp only [substituteFields, bind_eq_ok, substitute_nil, substituteFields_nil,
      Json.textsOfFields, List.forall_mem_append]
    constructor
    · rintro ⟨_, ⟨rfl, hj⟩, _, ⟨rfl, hrest⟩, ⟨⟩⟩
      exact ⟨rfl, hj, hrest⟩
    · rintro ⟨rfl, hj, hrest⟩
      exact ⟨j, ⟨rfl, hj⟩, rest, ⟨rfl, hrest⟩, rfl⟩
termination_by structural fields => fields

end

section sizes

theorem size_literal_le (s : List Char) : (literal s).size ≤ s.length + 1 := by
  have htext : (Json.str (String.ofList s)).size ≤ s.length + 1 := by
    rw [Json.size_str, String.length_ofList]
    omega
  have hone : 1 ≤ s.length + 1 := Nat.le_add_left 1 _
  rw [literal]
  split
  · have htrim := Text.length_trimBy_le isQuote s
    rw [Json.size_str, String.length_ofList]
    omega
  · split
    · exact hone
    · split
      · exact hone
      · exact htext
      · split_ifs
        · exact hone
        · exact hone
        · exact hone
        · exact htext

theorem sizeItems_literals_le (s : List Char) :
    Json.sizeItems ((commaPieces s).map literal) ≤ s.length + 1 := by
  rw [Json.sizeItems_eq_sum, List.map_map]
  calc ((commaPieces s).map (Json.size ∘ literal)).sum
      ≤ ((commaPieces s).map fun piece => piece.length + 1).sum :=
        List.sum_le_sum fun piece _ => size_literal_le piece
    _ ≤ s.length + 1 := Text.sum_length_filter_pieces_le _ _ s

theorem size_listLiteral_le (s : List Char) : (listLiteral s).size ≤ s.length + 2 := by
  rw [listLiteral]
  split_ifs
  · have hitems := sizeItems_literals_le s
    rw [Json.size_arr]
    omega
  · exact (size_literal_le s).trans (Nat.le_succ _)

theorem length_of_splitOnce? {c : Char} {s front back : List Char}
    (h : Text.splitOnce? c s = some (front, back)) :
    s.length = front.length + 1 + back.length := by
  obtain ⟨rfl, -⟩ := Text.splitOnce?_eq_some_iff.mp h
  rw [List.length_append, List.length_cons]
  omega

/-- A word brings at most its characters and one more into the settings and the arguments. -/
theorem size_readWords_le (words : List String) (fields : List (String × Json))
    (args : List Json) :
    Json.sizeFields (readWords fields args words).1 +
        Json.sizeItems (readWords fields args words).2 ≤
      Json.sizeFields fields + Json.sizeItems args +
        (words.map fun word => word.length + 1).sum := by
  induction words generalizing fields args with
  | nil => exact le_rfl
  | cons word rest ih =>
    rw [readWords, List.map_cons, List.sum_cons, ← String.length_toList]
    split
    · rename_i c key value hsplit
      have hrest := ih (Entries.put (String.ofList (c :: key)) (listLiteral value) fields) args
      have hput := Json.sizeFields_put_le (String.ofList (c :: key)) (listLiteral value) fields
      have hvalue := size_listLiteral_le value
      have hlength := length_of_splitOnce? hsplit
      rw [List.length_cons] at hlength
      omega
    · have hrest := ih fields (args ++ (commaPieces word.toList).map literal)
      have hpieces := sizeItems_literals_le word.toList
      rw [Json.sizeItems_append] at hrest
      omega

theorem sum_words_le (s : String) :
    ((Text.words s).map fun word => word.length + 1).sum ≤ s.length + 1 := by
  have hpieces := Text.sum_length_filter_pieces_le Text.isBlank (!·.isEmpty) s.toList
  rw [String.length_toList] at hpieces
  rw [Text.words, List.map_map]
  simpa [Function.comp_def] using hpieces

/-- The values of the settings and arguments come with one object and at most one list. -/
theorem size_inlineConfig_le (s : String) : (inlineConfig s).size ≤ s.length + 3 := by
  have hwords := size_readWords_le (Text.words s) [] []
  have hsum := sum_words_le s
  rw [inlineConfig]
  generalize readWords [] [] (Text.words s) = settings at hwords
  obtain ⟨fields, args⟩ := settings
  simp only [Json.sizeFields, Json.sizeItems] at hwords
  dsimp only
  rw [Json.size_obj]
  split_ifs
  · omega
  · have hput := Json.sizeFields_put_le "args" (.arr args) fields
    rw [Json.size_arr] at hput
    omega

theorem size_lineConfig_le {text : String} {config : Json}
    (h : Reader.lineConfig text = .ok config) :
    config.size ≤ if text.isEmpty then 1 else text.length + 3 := by
  rw [Reader.lineConfig] at h
  split_ifs at h ⊢
  · cases h
    rfl
  · split at h
    · rename_i config' hparse
      cases h
      exact (Json.size_le_of_parse? hparse).trans (Nat.le_add_right _ 3)
    · cases h
  · cases h
    exact size_inlineConfig_le text

end sizes

namespace Reader

variable {r : Reader} {step : Step}

theorem settle_nil {config config' : Json} (h : r.settle [] config = .ok config') :
    config' = config := by
  rw [settle] at h
  split_ifs at h
  · exact (substitute_nil.mp h).1
  · cases h
    rfl

/-- The operator of a line ends at the first blank, and its configuration follows. -/
theorem readStepLine_eq_ok_iff {bindings : Bindings} {line : String} :
    r.readStepLine bindings line = .ok step ↔
      line.toList.takeWhile (!Text.isBlank ·) ≠ [] ∧
        ∃ config, lineConfig (Text.trim (String.ofList
            ((line.toList.dropWhile (!Text.isBlank ·)).drop 1))) = .ok config ∧
          ∃ config', r.settle bindings config = .ok config' ∧
            step = ⟨String.ofList (line.toList.takeWhile (!Text.isBlank ·)), config'⟩ := by
  rw [readStepLine, ne_eq, ← List.isEmpty_iff]
  split_ifs with hempty
  · simp [hempty]
  · rw [and_iff_right hempty]
    simp only [bind_eq_ok]
    refine exists_congr fun config => and_congr_right fun _ => exists_congr fun config' => ?_
    exact and_congr_right fun _ => ⟨fun h => (Except.ok.inj h).symm, fun h => h ▸ rfl⟩

theorem size_readStepLine_le {line : String} (h : r.readStepLine [] line = .ok step) :
    step.config.size ≤ line.length + 1 := by
  obtain ⟨hoperator, config, hconfig, config', hsettle, rfl⟩ := readStepLine_eq_ok_iff.mp h
  obtain rfl := settle_nil hsettle
  have hlength := congrArg List.length
    (List.takeWhile_append_dropWhile (p := (!Text.isBlank ·)) (l := line.toList))
  have hpos := List.length_pos_iff.mpr hoperator
  rw [List.length_append, String.length_toList] at hlength
  generalize line.toList.dropWhile (!Text.isBlank ·) = rest at hconfig hlength
  have htrim := Text.length_trimBy_le Text.isBlank (rest.drop 1)
  have htext : (Text.trim (String.ofList (rest.drop 1))).length ≤ rest.length - 1 := by
    rw [← String.length_toList, Text.toList_trim, String.toList_ofList]
    rwa [List.length_drop] at htrim
  have hsize := size_lineConfig_le hconfig
  split_ifs at hsize with hempty
  · exact hsize.trans (Nat.le_add_left 1 _)
  · -- There is a text, so a blank stands before it and the operator before that.
    have hrest : 0 < (Text.trim (String.ofList (rest.drop 1))).length := by
      rw [Nat.pos_iff_ne_zero, ne_eq, String.length_eq_zero_iff]
      simpa [String.isEmpty_iff] using hempty
    change config'.size ≤ line.length + 1
    omega

/-- Without variables the configuration of a step is no larger than the value it is read from. -/
theorem size_readStep_le (hr : r.bindings = []) {j : Json} (h : r.readStep j = .ok step) :
    step.config.size ≤ j.size := by
  cases j with
  | obj fields =>
    rw [readStep, hr] at h
    split at h
    · cases h
    · obtain ⟨config, hsettle, h⟩ := bind_eq_ok.mp h
      cases h
      obtain rfl := settle_nil hsettle
      change ((Entries.get? "config" fields).getD (.obj [])).size ≤ _
      rw [Json.size_obj]
      cases hget : Entries.get? "config" fields with
      | none => exact Nat.le_add_right 1 _
      | some config => exact (Json.size_le_sizeFields hget).trans (Nat.le_add_left _ 1)
  | str line =>
    rw [readStep, hr] at h
    have hsize := size_readStepLine_le h
    have htrim := Text.length_trimBy_le Text.isBlank line.toList
    rw [← Text.toList_trim, String.length_toList, String.length_toList] at htrim
    rw [Json.size_str]
    omega
  | _ => cases h

end Reader

end Program

end ColumnSelection
