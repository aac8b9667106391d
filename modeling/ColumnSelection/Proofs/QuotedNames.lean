import ColumnSelection.Proofs.WordLines
import ColumnSelection.Proofs.ValueEquality

/-!
# Names in quotes

Behind a key the quotes around a name keep it as it is. A quoted word that stands alone is first cut
at its equality sign and at its commas, so that it names the column in the quotes exactly when there
are none between them.
-/
namespace ColumnSelection

namespace Program

open Reader

/-- A text that is one word in quotes and does not refer to a variable. -/
structure IsQuotable (s : String) : Prop where
  plain : ∀ c ∈ s.toList, Text.isBlank c = false ∧ isQuote c = false
  head : ∀ c ∈ s.toList.head?, c ≠ '$'

instance : DecidablePred IsQuotable := fun s =>
  decidable_of_iff
    ((s.toList.all fun c => Text.isBlank c = false ∧ isQuote c = false) = true ∧
      (s.toList.head?.all fun c => c ≠ '$') = true) <| by
    simp only [List.all_eq_true, Option.all_eq_true, decide_eq_true_iff]
    exact ⟨fun ⟨hplain, hhead⟩ => ⟨hplain, hhead⟩, fun hs => ⟨hs.plain, hs.head⟩⟩

/-- The text in double quotes. -/
def quoted (s : String) : String :=
  "\"" ++ s ++ "\""

section quoting

variable {s : String}

theorem toList_quoted (s : String) : (quoted s).toList = '"' :: (s.toList ++ ['"']) := by
  simp [quoted]

theorem mem_toList_quoted {c : Char} (hc : c ≠ '"') (s : String) :
    c ∈ (quoted s).toList ↔ c ∈ s.toList := by
  simp [toList_quoted, hc]

theorem IsQuotable.isLineWord_quoted (hs : IsQuotable s) : IsLineWord (quoted s) where
  nonempty := by
    rw [ne_eq, ← String.toList_eq_nil_iff, toList_quoted]
    exact List.cons_ne_nil _ _
  plain := by
    intro c hc
    rw [toList_quoted, List.mem_cons, List.mem_append, List.mem_singleton] at hc
    rcases hc with rfl | hc | rfl
    · decide
    · exact (hs.plain c hc).1
    · decide
  head := by
    rw [toList_quoted]
    rintro _ ⟨⟩
    decide

/-- The quotes are taken off again. -/
theorem IsQuotable.literal_quoted (hs : IsQuotable s) : literal (quoted s).toList = .str s := by
  have htrim : Text.trimBy isQuote (quoted s).toList = s.toList := by
    have hquote : isQuote '"' = true := by decide
    rw [toList_quoted, ← List.cons_append, Text.trimBy_concat hquote, Text.trimBy,
      Text.trimStartBy, List.dropWhile_cons_of_pos hquote, ← Text.trimStartBy, ← Text.trimBy]
    exact Text.trimBy_eq_self_of_forall fun c hc => (hs.plain c hc).2
  have hopens : opensQuoted (quoted s).toList = true := by
    rw [toList_quoted]
    rfl
  rw [literal, if_pos hopens, htrim, String.ofList_toList]

/-- The word that sets the names to one text in quotes. -/
def namesWord (s : String) : String :=
  "names=" ++ quoted s

theorem toList_namesWord (s : String) :
    (namesWord s).toList = "names".toList ++ '=' :: (quoted s).toList := by
  simp [namesWord]

theorem IsQuotable.isLineWord_namesWord (hs : IsQuotable s) : IsLineWord (namesWord s) where
  nonempty := by simp [namesWord]
  plain := by
    have hkey : "names".toList.all (!Text.isBlank ·) = true := by decide
    intro c hc
    rw [toList_namesWord, List.mem_append, List.mem_cons] at hc
    rcases hc with hc | rfl | hc
    · simpa using List.all_eq_true.mp hkey c hc
    · decide
    · exact hs.isLineWord_quoted.plain c hc
  head := by
    rw [toList_namesWord]
    rintro _ ⟨⟩
    decide

theorem IsQuotable.inlineConfig_namesWord (hs : IsQuotable s) :
    inlineConfig (namesWord s) = .obj [("names", .str s)] := by
  have hsplit : Text.splitOnce? '=' (namesWord s).toList =
      some ("names".toList, (quoted s).toList) :=
    Text.splitOnce?_eq_some_iff.mpr ⟨toList_namesWord s, by decide⟩
  have hvalue : listLiteral (quoted s).toList = .str s := by
    rw [← hs.literal_quoted, listLiteral, toList_quoted]
    rfl
  rw [inlineConfig_setting hs.isLineWord_namesWord hsplit, hvalue]
  rfl

/-- A word in quotes with an equality sign sets a key that begins with a quote. -/
theorem IsQuotable.inlineConfig_quoted_of_equals (hs : IsQuotable s) (h : '=' ∈ s.toList) :
    ∃ key value, inlineConfig (quoted s) = .obj [(String.ofList ('"' :: key), value)] := by
  obtain ⟨front, back, hcut, hfront⟩ :=
    List.eq_append_cons_of_mem ((mem_toList_quoted (by decide) s).mpr h)
  have hsplit := Text.splitOnce?_eq_some_iff.mpr ⟨hcut, hfront⟩
  cases front with
  | nil =>
    rw [toList_quoted] at hcut
    cases hcut
  | cons c key =>
    obtain rfl : '"' = c := by
      rw [toList_quoted] at hcut
      exact (List.cons.inj hcut).1
    exact ⟨key, listLiteral back, inlineConfig_setting hs.isLineWord_quoted hsplit⟩

/-- The quotes are cut apart at a comma between them. -/
theorem one_lt_length_commaPieces_quoted (h : ',' ∈ s.toList) :
    1 < (commaPieces (quoted s).toList).length := by
  obtain ⟨front, back, hs⟩ := List.append_of_mem h
  have hcut : (quoted s).toList = ('"' :: front) ++ ',' :: (back ++ ['"']) := by
    rw [toList_quoted, hs]
    simp
  have hkept : ∀ side : List Char, '"' ∈ side → 0 < (commaPieces side).length := by
    intro side hside
    obtain ⟨piece, hpiece, hmem⟩ :=
      Text.exists_mem_pieces (p := (· == ',')) (by decide) hside
    refine List.length_pos_of_mem (List.mem_filter.mpr ⟨hpiece, ?_⟩)
    simpa using List.ne_nil_of_mem hmem
  have hfront := hkept ('"' :: front) List.mem_cons_self
  have hback := hkept (back ++ ['"']) (by simp)
  rw [hcut, commaPieces, Text.pieces_append_cons (by decide), List.filter_append,
    List.length_append]
  rw [commaPieces] at hfront hback
  omega

end quoting

section selections

variable {s : String} {strict : Bool}

/-- The keys under which the operator for columns looks for names. -/
def nameKeys : List String :=
  ["names", "cols", "name"]

theorem ofList_quote_not_mem (key : List Char) :
    String.ofList ('"' :: key) ∉ nameKeys ++ ["args"] := by
  have hheads : ∀ k ∈ nameKeys ++ ["args"], k.toList.head? ≠ some '"' := by decide
  intro hmem
  exact hheads _ hmem (by rw [String.toList_ofList]; rfl)

/-- A setting under any other key gives no arguments. -/
theorem arguments_of_not_mem {keys : List String} {key : String} (h : key ∉ keys ++ ["args"])
    (value : Json) : arguments keys (.obj [(key, value)]) = [] := by
  have hnone : firstUnder (keys ++ ["args"]) (.obj [(key, value)]) = none := by
    refine List.findSome?_eq_none_iff.mpr fun k hk => ?_
    have hne : key ≠ k := fun heq => h (heq ▸ hk)
    simp [Json.get?, Entries.get?, hne]
  unfold arguments
  rw [hnone]

theorem mapM_eq_ok_singleton_iff {α β : Type} {f : α → Except Failure β} {xs : List α} {b : β} :
    xs.mapM f = .ok [b] ↔ ∃ a, xs = [a] ∧ f a = .ok b := by
  cases xs with
  | nil => simp [pure, Except.pure]
  | cons x rest =>
    cases rest with
    | nil => simp [bind_eq_ok, pure, Except.pure]
    | cons y rest => simp [bind_eq_ok, pure, Except.pure]

/-- One column is selected exactly when one argument is given and is a name. -/
theorem outcome_cols_eq_ok_iff {nested : Nested} {config : Json} :
    (applyOperator nested none .cols config).outcome = .ok (.columns [.name s]) ↔
      ∃ j, arguments nameKeys config = [j] ∧ nameOf j = .ok s := by
  rw [← mapM_eq_ok_singleton_iff]
  change (startSelection nested .cols config).outcome = _ ↔ _
  rw [startSelection, Logged.outcome_bind_eq_ok]
  change (∃ names, (arguments nameKeys config).mapM nameOf = .ok names ∧ _) ↔ _
  constructor
  · rintro ⟨names, hnames, hset⟩
    split_ifs at hset
    · cases hset
    · have hmap : names.map Reference.name = [s].map Reference.name :=
        Selection.columns.inj (Except.ok.inj hset)
      obtain rfl : names = [s] :=
        List.map_injective_iff.mpr (fun _ _ => Reference.name.inj) hmap
      exact hnames
  · intro hnames
    exact ⟨[s], hnames, rfl⟩

theorem IsQuotable.compileSource_names (hs : IsQuotable s) (strict : Bool) :
    compileSource strict ("cols names=" ++ quoted s) = Logged.ok (.columns [.name s]) := by
  have hsource : "cols names=" ++ quoted s = Operator.cols.word ++ " " ++ namesWord s := by
    rw [namesWord, ← String.append_assoc]
    rfl
  have hsubstitute :
      substitute [] (inlineConfig (namesWord s)) = .ok (.obj [("names", .str s)]) := by
    rw [hs.inlineConfig_namesWord]
    refine substitute_nil.mpr ⟨rfl, fun t ht => ?_⟩
    obtain rfl : t = s := by
      simpa [Json.texts, Json.textsOfFields] using ht
    exact not_needsVariable_of_head hs.head
  rw [hsource, compileSource_word hs.isLineWord_namesWord, hsubstitute]
  rfl

theorem IsQuotable.outcome_compileSource_quoted (hs : IsQuotable s) (strict : Bool) :
    (compileSource strict ("cols " ++ quoted s)).outcome = .ok (.columns [.name s]) ↔
      ',' ∉ s.toList ∧ '=' ∉ s.toList := by
  have hword := hs.isLineWord_quoted
  have hmem {c : Char} (hc : c ≠ '"') : c ∉ (quoted s).toList ↔ c ∉ s.toList :=
    not_congr (mem_toList_quoted hc s)
  have hsource : "cols " ++ quoted s = Operator.cols.word ++ " " ++ quoted s := rfl
  rw [hsource, outcome_compileSource_word_eq_ok_iff hword]
  constructor
  · rintro ⟨config, hconfig, hcompile⟩
    obtain ⟨j, hj, -⟩ := outcome_cols_eq_ok_iff.mp hcompile
    rw [(substitute_nil.mp hconfig).1] at hj
    have hequals : '=' ∉ s.toList := by
      intro h
      obtain ⟨key, value, hinline⟩ := hs.inlineConfig_quoted_of_equals h
      rw [hinline, arguments_of_not_mem (ofList_quote_not_mem key)] at hj
      cases hj
    refine ⟨fun hcomma => ?_, hequals⟩
    have hlength := one_lt_length_commaPieces_quoted hcomma
    have hpieces := List.ne_nil_of_length_pos (Nat.zero_lt_one.trans hlength)
    rw [inlineConfig_arguments hword ((hmem (by decide)).mpr hequals) hpieces] at hj
    have hcount : (commaPieces (quoted s).toList).map literal = [j] := hj
    have hone := congrArg List.length hcount
    rw [List.length_map, List.length_singleton] at hone
    omega
  · rintro ⟨hcomma, hequals⟩
    have hpieces := commaPieces_eq_singleton hword ((hmem (by decide)).mpr hcomma)
    have hinline : inlineConfig (quoted s) = .obj [("args", .arr [.str s])] := by
      rw [inlineConfig_arguments hword ((hmem (by decide)).mpr hequals) (by simp [hpieces]),
        hpieces, List.map_singleton, hs.literal_quoted]
    refine ⟨.obj [("args", .arr [.str s])], ?_, outcome_cols_eq_ok_iff.mpr ⟨.str s, rfl, rfl⟩⟩
    rw [hinline]
    refine substitute_nil.mpr ⟨rfl, fun t ht => ?_⟩
    obtain rfl : t = s := by
      simpa [Json.texts, Json.textsOfFields, Json.textsOfItems] using ht
    exact not_needsVariable_of_head hs.head

/-- Quotes keep a name together behind a key, and in a word of its own when there is neither a comma
nor an equality sign between them. -/
theorem compileSource_quoted (hs : IsQuotable s) (strict : Bool) :
    compileSource strict ("cols names=" ++ quoted s) = Logged.ok (.columns [.name s]) ∧
      ((compileSource strict ("cols " ++ quoted s)).outcome = .ok (.columns [.name s]) ↔
        ',' ∉ s.toList ∧ '=' ∉ s.toList) :=
  ⟨hs.compileSource_names strict, hs.outcome_compileSource_quoted strict⟩

/-- Quotes keep a text from being read as a number. -/
theorem compileSource_quoted_number :
    let s := "007"
    IsQuotable s ∧
      compileSource true ("cols names=" ++ quoted s) = Logged.ok (.columns [.name s]) ∧
      (compileSource true ("cols " ++ quoted s)).outcome = .ok (.columns [.name s]) := by
  intro s
  have hs : IsQuotable s := by decide
  obtain ⟨hnames, hword⟩ := compileSource_quoted hs true
  exact ⟨hs, hnames, hword.mpr (by decide)⟩

/-- A comma cuts the quotes apart, and one of them stays with its piece. At an equality sign the
quotes are cut apart into a key and its value, and no name is left. -/
theorem compileSource_quoted_cut :
    IsQuotable "a,b" ∧ IsQuotable "a=b" ∧
      compileSource false ("cols " ++ quoted "a,b") =
        Logged.ok (.columns [.name "a", .name "b\""]) ∧
      (compileSource false ("cols " ++ quoted "a,b")).outcome ≠
        .ok (.columns [.name "a,b"]) ∧
      (compileSource false ("cols " ++ quoted "a=b")).outcome =
        .error (.validation (.missing "cols" "column names")) := by
  have hcomma : IsQuotable "a,b" := by decide
  have hequals : IsQuotable "a=b" := by decide
  have hpieces : compileSource false ("cols " ++ quoted "a,b") =
      Logged.ok (.columns [.name "a", .name "b\""]) := by
    have hinline : inlineConfig (quoted "a,b") =
        .obj [("args", .arr [.str "a", .str "b\""])] := by decide +kernel
    change compileSource false (Operator.cols.word ++ " " ++ quoted "a,b") = _
    rw [compileSource_word hcomma.isLineWord_quoted, hinline]
    rfl
  have hinline : inlineConfig (quoted "a=b") = .obj [("\"a", .str "b\"")] := by decide +kernel
  refine ⟨hcomma, hequals, hpieces, ?_, ?_⟩
  · rw [hpieces]
    simp
  · change (compileSource false (Operator.cols.word ++ " " ++ quoted "a=b")).outcome = _
    rw [compileSource_word hequals.isLineWord_quoted, hinline]
    rfl

end selections

end Program

end ColumnSelection
