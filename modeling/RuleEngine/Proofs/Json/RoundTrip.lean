import RuleEngine.Proofs.Distinct
import RuleEngine.Proofs.Json.Numbers
import RuleEngine.Proofs.Json.Strings

/-!
# RuleEngine.Proofs.Json.RoundTrip

Reading undoes writing: the compact text of a document is read as that
document, its keys in their order.
-/

namespace RuleEngine

/-! ## Documents -/

mutual
/-- The numbers that occur in a value. -/
def Value.numbers : Value → List Number
  | .num n => [n]
  | .arr items => numbersOfItems items
  | .obj entries => numbersOfEntries entries
  | .null | .bool _ | .str _ => []

/-- The numbers that occur in the items of a list. -/
def Value.numbersOfItems : List Value → List Number
  | [] => []
  | v :: vs => numbers v ++ numbersOfItems vs

/-- The numbers that occur in the entries of an object. -/
def Value.numbersOfEntries : List (String × Value) → List Number
  | [] => []
  | (_, v) :: es => numbers v ++ numbersOfEntries es
end

namespace Keyed

variable {α : Type}

theorem foldl_set_of_nodup {entries o : Keyed α} (h : (keys (o ++ entries)).Nodup) :
    entries.foldl (fun o e => set e.1 e.2 o) o = o ++ entries := by
  induction entries generalizing o with
  | nil => simp
  | cons e entries ih =>
    have hkey : e.1 ∉ keys o := by
      rw [keys, List.map_append, List.nodup_append] at h
      exact fun hmem => h.2.2 e.1 hmem e.1 (by simp) rfl
    rw [List.append_cons] at h ⊢
    rw [List.foldl_cons, set_of_notMem hkey]
    exact ih h

/-- Entries without a repeated key are kept as they are. -/
theorem ofEntries_of_nodup {entries : Keyed α} (h : (keys entries).Nodup) :
    ofEntries entries = entries :=
  foldl_set_of_nodup h

end Keyed

namespace Json

/-- The text of the number is read back as the number. -/
def ReadsBack (n : Number) : Prop := readNumber (n.text .json) = some (n, [])

/-- Not every double is read back: the text `0.15838287025480557` is read as the double
before it. -/
example : readNumber (Decimal.Layout.json.write (.ofBits 0x3FC445E3CFFED920)) =
    some (.float (.ofBits 0x3FC445E3CFFED91F) (by decide), []) := by decide +kernel

/-! ## One step of the reader -/

section

variable {fuel depth : Nat} {cs rest : List Char}

theorem skipBlanks_cons {c : Char} (h : isBlank c = false) (cs : List Char) :
    skipBlanks (c :: cs) = c :: cs := by
  rw [skipBlanks, List.dropWhile_cons, if_neg (by simp [h])]

/-- A number starts with a digit or with a minus sign. -/
theorem exists_cons_of_readNumber {r : Number × List Char} (h : readNumber cs = some r) :
    ∃ c cs', cs = c :: cs' ∧ (c = '-' ∨ c.isDigit = true) := by
  cases cs with
  | nil => cases h
  | cons c cs =>
    refine ⟨c, cs, rfl, ?_⟩
    by_cases hc : c = '-'
    · exact .inl hc
    · right
      rw [readNumber_unsigned (by simp [hc])] at h
      obtain ⟨whole, hwhole, -⟩ := Option.bind_eq_some_iff.1 h
      by_contra hdigit
      rw [readWhole, readDigits_cons, if_neg hdigit] at hwhole
      cases hwhole

theorem not_isBlank_of_number {c : Char} (h : c = '-' ∨ c.isDigit = true) : isBlank c = false := by
  by_contra hblank
  simp only [isBlank, Bool.not_eq_false, Bool.or_eq_true, decide_eq_true_eq] at hblank
  obtain ((rfl | rfl) | rfl) | rfl := hblank <;> exact absurd h (by decide)

theorem readValue_number {n : Number} (h : readNumber cs = some (n, rest)) :
    readValue (fuel + 1) depth cs = some (.num n, rest) := by
  obtain ⟨c, cs, rfl, hc⟩ := exists_cons_of_readNumber h
  rw [readValue, skipBlanks_cons (not_isBlank_of_number hc)]
  split
  -- no other value starts like a number
  iterate 6
    next heq =>
      obtain ⟨rfl, -⟩ := List.cons.inj heq
      exact absurd hc (by decide)
  rw [h]
  rfl

theorem readValue_quote (s rest : List Char) :
    readValue (fuel + 1) depth (quote s ++ rest) = some (.str (String.ofList s), rest) := by
  rw [quote, List.cons_append, List.append_assoc, List.singleton_append, readValue,
    skipBlanks_cons rfl]
  simp only [readChars_quoted, bind, Option.bind]

theorem readValue_items {items : List Value} (hclose : closes ']' cs = none)
    (h : readItems fuel depth cs = some (items, rest)) :
    readValue (fuel + 1) (depth + 1) ('[' :: cs) = some (.arr items, rest) := by
  rw [readValue, skipBlanks_cons rfl]
  simp only [Nat.add_sub_cancel, hclose, h, bind, Option.bind]
  rfl

theorem readValue_entries {entries : List (String × Value)} (hclose : closes '}' cs = none)
    (h : readEntries fuel depth cs = some (entries, rest)) :
    readValue (fuel + 1) (depth + 1) ('{' :: cs) = some (.obj (Keyed.ofEntries entries), rest) := by
  rw [readValue, skipBlanks_cons rfl]
  simp only [Nat.add_sub_cancel, hclose, h, bind, Option.bind]
  rfl

theorem readItems_last {v : Value} (h : readValue fuel depth cs = some (v, ']' :: rest)) :
    readItems (fuel + 1) depth cs = some ([v], rest) := by
  rw [readItems, h]
  rfl

theorem readItems_more {v : Value} {vs : List Value} {cs' : List Char}
    (h : readValue fuel depth cs = some (v, ',' :: cs'))
    (hrest : readItems fuel depth cs' = some (vs, rest)) :
    readItems (fuel + 1) depth cs = some (v :: vs, rest) := by
  rw [readItems, h]
  simp only [skipBlanks_cons (c := ',') rfl, hrest, bind, Option.bind]

theorem closes_self {c : Char} (h : isBlank c = false) (cs : List Char) :
    closes c (c :: cs) = some cs := by
  rw [closes, skipBlanks_cons h]
  exact if_pos rfl

theorem closes_ne {close c : Char} (h : isBlank c = false) (hne : c ≠ close) (cs : List Char) :
    closes close (c :: cs) = none := by
  rw [closes, skipBlanks_cons h]
  exact if_neg hne

theorem readEntries_last {key : List Char} {v : Value}
    (h : readValue fuel depth cs = some (v, '}' :: rest)) :
    readEntries (fuel + 1) depth (quote key ++ ':' :: cs) =
      some ([(String.ofList key, v)], rest) := by
  rw [quote, List.cons_append, List.append_assoc, List.singleton_append, readEntries,
    skipBlanks_cons rfl]
  simp only [readChars_quoted, closes_self (c := ':') rfl, h, skipBlanks_cons (c := '}') rfl,
    bind, Option.bind]

theorem readEntries_more {key : List Char} {v : Value} {es : List (String × Value)}
    {cs' : List Char} (h : readValue fuel depth cs = some (v, ',' :: cs'))
    (hrest : readEntries fuel depth cs' = some (es, rest)) :
    readEntries (fuel + 1) depth (quote key ++ ':' :: cs) =
      some ((String.ofList key, v) :: es, rest) := by
  rw [quote, List.cons_append, List.append_assoc, List.singleton_append, readEntries,
    skipBlanks_cons rfl]
  simp only [readChars_quoted, closes_self (c := ':') rfl, h, skipBlanks_cons (c := ',') rfl,
    hrest, bind, Option.bind]

end

/-! ## Reading what was written -/

/-- The text of a value starts with a character that neither is a blank nor closes
a list. -/
theorem exists_chars_cons {v : Value} (h : ∀ n ∈ v.numbers, ReadsBack n) :
    ∃ c cs, chars v = c :: cs ∧ isBlank c = false ∧ c ≠ ']' := by
  cases v with
  | null => exact ⟨'n', _, rfl, rfl, by decide⟩
  | bool b =>
    cases b with
    | true => exact ⟨'t', _, rfl, rfl, by decide⟩
    | false => exact ⟨'f', _, rfl, rfl, by decide⟩
  | num n =>
    obtain ⟨c, cs, hcs, hc⟩ := exists_cons_of_readNumber (h n (by simp [Value.numbers]))
    refine ⟨c, cs, hcs, not_isBlank_of_number hc, ?_⟩
    intro hclose
    subst hclose
    exact absurd hc (by decide)
  | str s => exact ⟨'"', _, rfl, rfl, by decide⟩
  | arr items => exact ⟨'[', _, rfl, rfl, by decide⟩
  | obj entries => exact ⟨'{', _, rfl, rfl, by decide⟩

theorem closes_itemChars {v : Value} {vs : List Value} (rest : List Char)
    (h : ∀ n ∈ v.numbers, ReadsBack n) : closes ']' (itemChars (v :: vs) ++ rest) = none := by
  obtain ⟨c, cs, hcs, hblank, hclose⟩ := exists_chars_cons h
  cases vs with
  | nil =>
    rw [itemChars, hcs]
    exact closes_ne hblank hclose _
  | cons w vs =>
    rw [itemChars, hcs]
    exact closes_ne hblank hclose _

theorem closes_entryChars (e : String × Value) (es : List (String × Value)) (rest : List Char) :
    closes '}' (entryChars (e :: es) ++ rest) = none := by
  obtain ⟨k, v⟩ := e
  cases es with
  | nil => exact closes_ne rfl (by decide) _
  | cons e es => exact closes_ne rfl (by decide) _

/-- What follows a value inside a list or an object goes on with no number. -/
theorem endsNumber_of_mem {c : Char} (h : c ∈ [',', ']', '}']) (cs : List Char) :
    EndsNumber (c :: cs) := by
  simp only [List.mem_cons, List.not_mem_nil, or_false] at h
  obtain rfl | rfl | rfl := h <;> exact .cons rfl (by decide) (by decide) (by decide)

theorem length_chars_pos {v : Value} (h : ∀ n ∈ v.numbers, ReadsBack n) :
    0 < (chars v).length := by
  obtain ⟨c, cs, hcs, -⟩ := exists_chars_cons h
  simp [hcs]

mutual
/-- A value is read from the front of a text that does not go on with a number.
The fuel is bounded by the length of the text, of which two calls read a character
at least. -/
theorem readValue_chars {fuel depth : Nat} {rest : List Char} (hrest : EndsNumber rest) :
    (v : Value) → v.Distinct → (∀ n ∈ v.numbers, ReadsBack n) → v.depth ≤ depth →
      2 * (chars v).length ≤ fuel + 2 →
      readValue (fuel + 1) depth (chars v ++ rest) = some (v, rest)
  | .null, _, _, _, _ => rfl
  | .bool true, _, _, _, _ => rfl
  | .bool false, _, _, _, _ => rfl
  | .num n, _, hnumbers, _, _ => by
    have hn : ReadsBack n := hnumbers n (by simp [Value.numbers])
    exact readValue_number (readNumber_append hrest hn)
  | .str s, _, _, _, _ => by
    rw [chars, readValue_quote, String.ofList_toList]
  | .arr [], _, _, hdepth, _ => by
    rw [Value.depth, Value.depthItems] at hdepth
    obtain ⟨depth, rfl⟩ := Nat.exists_eq_add_of_le' hdepth
    rfl
  | .arr (v :: vs), hdistinct, hnumbers, hdepth, hfuel => by
    rw [Value.depth] at hdepth
    obtain ⟨depth, rfl⟩ : ∃ d, depth = d + 1 := ⟨depth - 1, by omega⟩
    simp only [chars, List.length_cons, List.length_append, List.length_nil] at hfuel
    obtain ⟨fuel, rfl⟩ : ∃ n, fuel = n + 2 := ⟨fuel - 2, by omega⟩
    have hnumbers' : ∀ n ∈ v.numbers, ReadsBack n := fun n hn =>
      hnumbers n (by simp [Value.numbers, Value.numbersOfItems, hn])
    rw [chars, List.cons_append, List.append_assoc, List.singleton_append]
    exact readValue_items (closes_itemChars _ hnumbers')
      (readItems_itemChars rest (v :: vs) (by simp) hdistinct hnumbers (by omega) (by omega))
  | .obj [], _, _, hdepth, _ => by
    rw [Value.depth, Value.depthEntries] at hdepth
    obtain ⟨depth, rfl⟩ := Nat.exists_eq_add_of_le' hdepth
    rfl
  | .obj (e :: es), hdistinct, hnumbers, hdepth, hfuel => by
    obtain ⟨hnodup, hdistinct⟩ := hdistinct
    rw [Value.depth] at hdepth
    obtain ⟨depth, rfl⟩ : ∃ d, depth = d + 1 := ⟨depth - 1, by omega⟩
    simp only [chars, List.length_cons, List.length_append, List.length_nil] at hfuel
    obtain ⟨fuel, rfl⟩ : ∃ n, fuel = n + 2 := ⟨fuel - 2, by omega⟩
    have hentries : readEntries (fuel + 2) depth (entryChars (e :: es) ++ '}' :: rest) =
        some (e :: es, rest) :=
      readEntries_entryChars rest (e :: es) (by simp) hdistinct hnumbers (by omega) (by omega)
    rw [chars, List.cons_append, List.append_assoc, List.singleton_append,
      readValue_entries (closes_entryChars e es _) hentries, Keyed.ofEntries_of_nodup hnodup]

/-- Items are read up to the closing bracket. -/
theorem readItems_itemChars {fuel depth : Nat} (rest : List Char) :
    (vs : List Value) → vs ≠ [] → Value.DistinctItems vs →
      (∀ n ∈ Value.numbersOfItems vs, ReadsBack n) → Value.depthItems vs ≤ depth →
      2 * (itemChars vs).length ≤ fuel + 2 →
      readItems (fuel + 2) depth (itemChars vs ++ ']' :: rest) = some (vs, rest)
  | [], hne, _, _, _, _ => absurd rfl hne
  | [v], _, hdistinct, hnumbers, hdepth, hfuel => by
    have hv : ∀ n ∈ v.numbers, ReadsBack n := fun n hn => hnumbers n (List.mem_append_left _ hn)
    rw [Value.depthItems] at hdepth
    rw [itemChars] at hfuel ⊢
    exact readItems_last
      (readValue_chars (endsNumber_of_mem (by decide) rest) v hdistinct.1 hv (by omega) hfuel)
  | v :: w :: vs, _, hdistinct, hnumbers, hdepth, hfuel => by
    have hv : ∀ n ∈ v.numbers, ReadsBack n := fun n hn => hnumbers n (List.mem_append_left _ hn)
    have hrest : ∀ n ∈ Value.numbersOfItems (w :: vs), ReadsBack n := fun n hn =>
      hnumbers n (List.mem_append_right _ hn)
    have hlength := length_chars_pos hv
    rw [Value.depthItems] at hdepth
    simp only [itemChars, List.length_cons, List.length_append] at hfuel
    obtain ⟨fuel, rfl⟩ : ∃ n, fuel = n + 1 := ⟨fuel - 1, by omega⟩
    rw [itemChars, List.append_assoc, List.cons_append]
    exact readItems_more
      (readValue_chars (endsNumber_of_mem (by decide) _) v hdistinct.1 hv (by omega) (by omega))
      (readItems_itemChars rest (w :: vs) (by simp) hdistinct.2 hrest (by omega) (by omega))

/-- Entries are read up to the closing brace. -/
theorem readEntries_entryChars {fuel depth : Nat} (rest : List Char) :
    (es : List (String × Value)) → es ≠ [] → Value.DistinctEntries es →
      (∀ n ∈ Value.numbersOfEntries es, ReadsBack n) → Value.depthEntries es ≤ depth →
      2 * (entryChars es).length ≤ fuel + 2 →
      readEntries (fuel + 2) depth (entryChars es ++ '}' :: rest) = some (es, rest)
  | [], hne, _, _, _, _ => absurd rfl hne
  | [(k, v)], _, hdistinct, hnumbers, hdepth, hfuel => by
    have hv : ∀ n ∈ v.numbers, ReadsBack n := fun n hn => hnumbers n (List.mem_append_left _ hn)
    rw [Value.depthEntries] at hdepth
    simp only [entryChars, List.length_append, List.length_cons] at hfuel
    rw [entryChars, List.append_assoc, List.cons_append, readEntries_last
      (readValue_chars (endsNumber_of_mem (by decide) rest) v hdistinct.1 hv (by omega) (by omega)),
      String.ofList_toList]
  | (k, v) :: e :: es, _, hdistinct, hnumbers, hdepth, hfuel => by
    have hv : ∀ n ∈ v.numbers, ReadsBack n := fun n hn => hnumbers n (List.mem_append_left _ hn)
    have hrest : ∀ n ∈ Value.numbersOfEntries (e :: es), ReadsBack n := fun n hn =>
      hnumbers n (List.mem_append_right _ hn)
    have hlength := length_chars_pos hv
    rw [Value.depthEntries] at hdepth
    simp only [entryChars, List.length_cons, List.length_append] at hfuel
    obtain ⟨fuel, rfl⟩ : ∃ n, fuel = n + 1 := ⟨fuel - 1, by omega⟩
    rw [entryChars, List.append_assoc, List.append_assoc, List.cons_append, List.cons_append,
      readEntries_more
        (readValue_chars (endsNumber_of_mem (by decide) _) v hdistinct.1 hv (by omega) (by omega))
        (readEntries_entryChars rest (e :: es) (by simp) hdistinct.2 hrest (by omega) (by omega)),
      String.ofList_toList]
end

/-- The compact text of a value is read as that value. -/
theorem read?_chars {v : Value} (hdistinct : v.Distinct) (hdepth : v.depth ≤ maxDepth)
    (hnumbers : ∀ n ∈ v.numbers, ReadsBack n) : read? (text v) = some v := by
  have hvalue : readValue (2 * (chars v).length + 1 + 1) maxDepth (chars v ++ []) = some (v, []) :=
    readValue_chars .nil v hdistinct hnumbers hdepth (by omega)
  rw [List.append_nil] at hvalue
  simp only [read?, text, String.toList_ofList, hvalue]
  rfl

end Json

namespace Rule

/-- **A document and its compact text mean the same rule.**  The text of a document
whose lists and objects nest at most 127 levels is read as that very document, keys in
their order, by the reader of JSON already; so both give the same rule or the same error,
and nothing is told of a rejected text.  Of the doubles in the document it is assumed that
their text is read back. -/
theorem read_text (diagnose : Diagnosis) (v : Value) (hdistinct : v.Distinct)
    (hdepth : v.depth ≤ 127)
    (hdoubles : ∀ x finite, Number.float x finite ∈ v.numbers →
      Json.readNumber (Decimal.Layout.json.write x) = some (.float x finite, [])) :
    Json.read? (Json.text v) = some v ∧
      decodeText diagnose (Json.text v) = .ok v ∧
      read diagnose (.text (Json.text v)) = read diagnose (.value v) := by
  have hnumbers : ∀ n ∈ v.numbers, Json.ReadsBack n := by
    intro n hn
    cases n with
    | int n inRange => exact Json.readNumber_integerText inRange
    | float x finite => exact hdoubles x finite hn
  have hread : Json.read? (Json.text v) = some v := Json.read?_chars hdistinct hdepth hnumbers
  have hdecode : decodeText diagnose (Json.text v) = .ok v := by rw [decodeText, hread]
  refine ⟨hread, hdecode, ?_⟩
  rw [read, hdecode, read]

/-- A document with escapes and characters beyond ASCII, the greatest and the least
integer, the double nearest to a tenth and minus zero. -/
def escapedDocument : Value :=
  .obj [("conditions", .null), ("actions", .arr [.obj [("name", .str "say \"hi\" \\ \n\x01é😀"),
    ("args", .obj [("z", .num (.int 18446744073709551615 (by decide))),
      ("a", .num (.int (-9223372036854775808) (by decide))),
      ("doubles", .arr [.num (.float (.ofBits 0x3FB999999999999A) (by decide)),
        .num (.float (.ofBits 0x8000000000000000) (by decide))]),
      ("\t", .arr [.null, .bool false, .arr [], .obj []])])]])]

theorem read_text_escapedDocument :
    escapedDocument.Distinct ∧ escapedDocument.depth ≤ 127 ∧
      (∀ x finite, Number.float x finite ∈ escapedDocument.numbers →
        Json.readNumber (Decimal.Layout.json.write x) = some (.float x finite, [])) ∧
      Json.read? (Json.text escapedDocument) = some escapedDocument ∧
      decodeText .terse (Json.text escapedDocument) = .ok escapedDocument ∧
      read .terse (.text (Json.text escapedDocument)) = read .terse (.value escapedDocument) := by
  have hdistinct : escapedDocument.Distinct := by
    simp [escapedDocument, Value.Distinct, Value.DistinctEntries, Value.DistinctItems]
  have hdepth : escapedDocument.depth ≤ 127 := by decide
  have hdoubles : ∀ x finite, Number.float x finite ∈ escapedDocument.numbers →
      Json.readNumber (Decimal.Layout.json.write x) = some (.float x finite, []) := by
    intro x finite hx
    simp only [escapedDocument, Value.numbers, Value.numbersOfItems, Value.numbersOfEntries,
      List.nil_append, List.append_nil, List.cons_append, List.mem_cons, List.not_mem_nil,
      Number.float.injEq, reduceCtorEq, false_or, or_false] at hx
    obtain rfl | rfl := hx
    · rfl
    · rfl
  exact ⟨hdistinct, hdepth, hdoubles, read_text .terse escapedDocument hdistinct hdepth hdoubles⟩

end Rule

end RuleEngine
