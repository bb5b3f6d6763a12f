import Mathlib.Data.List.Forall2
import Mathlib.Tactic.SplitIfs
import RuleEngine.Proofs.RunLog.Lines
import RuleEngine.Session

/-!
# RuleEngine.Proofs.RunLog.Results

How recorded results are worded in a run log: the text of a value is trimmed by quotation
marks, which is meant to take off the two that stand around a string.

1. No other value than a string starts or ends with a quotation mark, so that nothing is taken
   off (`trimBy_chars`).
2. The content of a string never starts with one, as every quotation mark in it has a backslash
   in front.  But it ends with one when the string does, and this one is taken off as well,
   which leaves its backslash (`trimBy_quote`).
3. `formatResults_wording` puts this together for a list of results.
-/

namespace RuleEngine

/-! ## Trimming -/

namespace Text

variable {class? : Char → Bool} {c : Char} {cs : List Char}

theorem trimBy_cons (h : class? c = true) (cs : List Char) :
    trimBy class? (c :: cs) = trimBy class? cs := by
  simp [trimBy, h]

theorem trimBy_concat (h : class? c = true) (cs : List Char) :
    trimBy class? (cs ++ [c]) = trimBy class? cs := by
  simp only [trimBy, List.dropWhile_append]
  split
  · next hempty =>
    rw [List.isEmpty_iff.1 hempty]
    simp [h]
  · simp [h]

/-- A text is left as it is when neither of its ends is in the class. -/
theorem trimBy_eq_self (hfirst : ∀ c ∈ cs.head?, class? c = false)
    (hlast : ∀ c ∈ cs.getLast?, class? c = false) : trimBy class? cs = cs := by
  have hkeep {ds : List Char} (h : ∀ d ∈ ds.head?, class? d = false) :
      ds.dropWhile class? = ds := by
    cases ds with
    | nil => rfl
    | cons d ds => rw [List.dropWhile_cons, if_neg (by simp [h d rfl])]
  rw [trimBy, hkeep hfirst, hkeep (by rwa [List.head?_reverse]), List.reverse_reverse]

end Text

namespace Json

/-- What is written for a character does not start with a quotation mark, and ends with one only
for a quotation mark. -/
theorem escape_eq (c : Char) :
    ∃ front last, escape c = front ++ [last] ∧ (last = '"' ↔ c = '"') ∧
      (escape c).head? ≠ some '"' := by
  have hdigit : ∀ n < 16, hexDigit n ≠ '"' := by decide
  by_cases hquote : c = '"'
  · subst hquote
    exact ⟨['\\'], '"', by decide⟩
  · simp only [escape, if_neg hquote]
    split_ifs with hbackslash hnewline htab hreturn hbackspace hfeed hcontrol
    · exact ⟨['\\'], '\\', rfl, by simp [hquote], by simp⟩
    · exact ⟨['\\'], 'n', rfl, by simp [hquote], by simp⟩
    · exact ⟨['\\'], 't', rfl, by simp [hquote], by simp⟩
    · exact ⟨['\\'], 'r', rfl, by simp [hquote], by simp⟩
    · exact ⟨['\\'], 'b', rfl, by simp [hquote], by simp⟩
    · exact ⟨['\\'], 'f', rfl, by simp [hquote], by simp⟩
    · have hlow := hdigit (c.toNat % 16) (by omega)
      exact ⟨['\\', 'u', '0', '0', hexDigit (c.toNat / 16)], _, rfl, by simp [hquote, hlow],
        by simp⟩
    · exact ⟨[], c, rfl, .rfl, by simpa using hquote⟩

/-- The content of a string does not start with a quotation mark. -/
theorem head?_flatMap_escape (s : List Char) : (s.flatMap escape).head? ≠ some '"' := by
  cases s with
  | nil => simp
  | cons c s =>
    obtain ⟨front, last, heq, -, hhead⟩ := escape_eq c
    rw [List.flatMap_cons, List.head?_append]
    cases hc : (escape c).head? with
    | none => simp [heq] at hc
    | some d =>
      rw [hc] at hhead
      simpa using hhead

/-- It ends with one when the string does. -/
theorem getLast?_flatMap_escape (s : List Char) :
    (s.flatMap escape).getLast? = some '"' ↔ s.getLast? = some '"' := by
  obtain rfl | ⟨front, c, rfl⟩ := List.eq_nil_or_concat s
  · simp
  · obtain ⟨cs, last, heq, hlast, -⟩ := escape_eq c
    simp [heq, hlast]

/-- Trimmed by quotation marks, a quoted string is its content, without the last character of
it when this is a quotation mark. -/
theorem trimBy_quote (s : List Char) :
    Text.trimBy (· = '"') (quote s) =
      if s.getLast? = some '"' then (s.flatMap escape).dropLast else s.flatMap escape := by
  have hhead := head?_flatMap_escape s
  rw [quote, Text.trimBy_cons (by decide), Text.trimBy_concat (by decide)]
  split
  · next hlast =>
    obtain ⟨front, rfl⟩ := List.getLast?_eq_some_iff.1 hlast
    have hcontent :
        (front ++ ['"']).flatMap escape = (front.flatMap escape ++ ['\\']) ++ ['"'] := by
      simp [escape]
    -- the backslash of the last quotation mark stays
    have hopen : (front.flatMap escape ++ ['\\']).head? ≠ some '"' := by
      simpa [hcontent, List.head?_append] using hhead
    rw [hcontent, Text.trimBy_concat (by decide), List.dropLast_concat]
    exact Text.trimBy_eq_self (fun c hc => decide_eq_false fun h => hopen (h ▸ hc)) (by simp)
  · next hlast =>
    have hend : (s.flatMap escape).getLast? ≠ some '"' := mt (getLast?_flatMap_escape s).1 hlast
    refine Text.trimBy_eq_self (fun c hc => ?_) (fun c hc => ?_)
    · exact decide_eq_false fun h => hhead (h ▸ hc)
    · exact decide_eq_false fun h => hend (h ▸ hc)

/-- The text of any other value than a string is left as it is. -/
theorem trimBy_chars {v : Value} (h : ∀ s, v ≠ .str s) :
    Text.trimBy (· = '"') (chars v) = chars v := by
  cases v with
  | str s => exact absurd rfl (h s)
  | null => rfl
  | bool b => cases b <;> rfl
  | num n =>
    have hquote : '"' ∉ chars (.num n) := notMem_number (by decide) n
    refine Text.trimBy_eq_self (fun c hc => ?_) (fun c hc => ?_)
    · exact decide_eq_false fun h => hquote (h ▸ List.mem_of_head? hc)
    · exact decide_eq_false fun h => hquote (h ▸ List.mem_of_getLast? hc)
  | arr items =>
    have hchars : chars (.arr items) = ('[' :: itemChars items) ++ [']'] := by rw [chars]; rfl
    rw [hchars]
    exact Text.trimBy_eq_self (by simp) (by rw [List.getLast?_concat]; simp)
  | obj entries =>
    have hchars : chars (.obj entries) = ('{' :: entryChars entries) ++ ['}'] := by rw [chars]; rfl
    rw [hchars]
    exact Text.trimBy_eq_self (by simp) (by rw [List.getLast?_concat]; simp)

end Json

/-! ## Wording -/

/-- Whether the value is a string that ends with a quotation mark. -/
def Value.endsInQuote : Value → Bool
  | .str s => s.toList.getLast? = some '"'
  | _ => false

namespace RunLog

/-- The text of a value, without the two quotation marks around it if it is a string. -/
def bareText : Value → String
  | .str s => String.ofList (Json.chars (.str s)).tail.dropLast
  | v => Json.text v

/-- The text of a value as a line shows it: a string that ends with a quotation mark lacks the
last character of its bare text. -/
def shownText (v : Value) : String :=
  if v.endsInQuote then String.ofList (bareText v).toList.dropLast else bareText v

/-- The words for calls with their results, by the given text of values. -/
def wordsFor (textOf : Value → String) (calls : List (String × Value)) : String :=
  ", ".intercalate (calls.map fun call => call.1 ++ "=" ++ textOf call.2)

/-- An entry that records the result of a job. -/
structure EntryFor (entry : Value) (call : String × Value) : Prop where
  job : entryField "job" entry = some (.str call.1)
  result : entryField "return" entry = some call.2

theorem toList_bareText_str (s : String) :
    (bareText (.str s)).toList = s.toList.flatMap Json.escape := by
  simp [bareText, Json.chars, Json.quote]

theorem text_str_eq (s : String) : Json.text (.str s) = "\"" ++ bareText (.str s) ++ "\"" := by
  apply String.toList_injective
  simp [toList_bareText_str, Json.text, Json.chars, Json.quote]

/-- What is trimmed off the text of a value is what the shown text lacks. -/
theorem trimmed_eq_shownText (v : Value) :
    String.ofList (Text.trimBy (· = '"') (Json.chars v)) = shownText v := by
  cases v with
  | str s =>
    rw [Json.chars, Json.trimBy_quote, shownText, toList_bareText_str]
    by_cases h : s.toList.getLast? = some '"'
    · simp [Value.endsInQuote, h]
    · simp [Value.endsInQuote, h, ← toList_bareText_str]
  | null | bool | num | arr | obj => exact congrArg String.ofList (Json.trimBy_chars nofun)

/-- The shown text lacks a quotation mark, or nothing. -/
theorem bareText_eq (v : Value) :
    bareText v = shownText v ++ if v.endsInQuote then "\"" else "" := by
  rw [shownText]
  split
  · next h =>
    cases v with
    | str s =>
      have hlast : (bareText (.str s)).toList.getLast? = some '"' := by
        rw [toList_bareText_str, Json.getLast?_flatMap_escape]
        simpa [Value.endsInQuote] using h
      obtain ⟨front, hfront⟩ := List.getLast?_eq_some_iff.1 hlast
      apply String.toList_injective
      simp [hfront]
    | null | bool | num | arr | obj => cases h
  · exact (String.append_empty ..).symm

theorem formatResult_of_entryFor {entry : Value} {call : String × Value} (h : EntryFor entry call) :
    formatResult entry = call.1 ++ "=" ++ shownText call.2 := by
  simp only [formatResult, h.job, h.result, Option.bind_some, Value.asString?, Option.getD_some,
    trimmed_eq_shownText]

/-- One character is lacking for each value that is a string with a quotation mark at its end. -/
theorem length_wordsFor_bareText (calls : List (String × Value)) :
    (wordsFor bareText calls).length =
      (wordsFor shownText calls).length + calls.countP (·.2.endsInQuote) := by
  have hcall (call : String × Value) : (bareText call.2).length =
      (shownText call.2).length + if call.2.endsInQuote then 1 else 0 := by
    rw [bareText_eq, String.length_append]
    split <;> rfl
  induction calls with
  | nil => rfl
  | cons call calls ih =>
    have hfirst := hcall call
    cases calls with
    | nil => simp [wordsFor, List.countP_cons, hfirst]; omega
    | cons other calls =>
      simp only [wordsFor, List.map_cons, String.intercalate_cons_cons, String.length_append,
        List.countP_cons] at ih ⊢
      omega

/-- The words lack nothing exactly when no value is such a string. -/
theorem wordsFor_shownText_eq_iff (calls : List (String × Value)) :
    wordsFor shownText calls = wordsFor bareText calls ↔
      ∀ call ∈ calls, call.2.endsInQuote = false := by
  constructor
  · intro heq call hcall
    have hlength := length_wordsFor_bareText calls
    rw [heq] at hlength
    have hnone : calls.countP (·.2.endsInQuote) = 0 := by omega
    simpa using List.countP_eq_zero.1 hnone call hcall
  · intro h
    have htexts : (calls.map fun call => call.1 ++ "=" ++ shownText call.2) =
        calls.map fun call => call.1 ++ "=" ++ bareText call.2 := by
      refine List.map_congr_left fun call hcall => ?_
      rw [shownText, if_neg (by simp [h call hcall])]
    rw [wordsFor, wordsFor, htexts]

/-- **The wording of recorded results.**  A line joins `name=text` for each entry, in order.
The text is that of the value, of a string without the quotation marks around it; but a string
that ends with a quotation mark lacks this one as well, and the backslash in front of it is
left.  So the values are given by their bare texts exactly when there is no such string among
them. -/
theorem formatResults_wording {results : List Value} {calls : List (String × Value)}
    (hnonempty : results ≠ []) (h : List.Forall₂ EntryFor results calls) :
    formatResults results = wordsFor shownText calls ∧
      (∀ s, Json.text (.str s) = "\"" ++ bareText (.str s) ++ "\"") ∧
      (∀ v, bareText v = shownText v ++ if v.endsInQuote then "\"" else "") ∧
      (formatResults results = wordsFor bareText calls ↔
        ∀ call ∈ calls, call.2.endsInQuote = false) := by
  have htexts : results.map formatResult =
      calls.map fun call => call.1 ++ "=" ++ shownText call.2 := by
    clear hnonempty
    induction h with
    | nil => rfl
    | cons hentry _ ih => rw [List.map_cons, List.map_cons, formatResult_of_entryFor hentry, ih]
  have hwords : formatResults results = wordsFor shownText calls := by
    rw [formatResults, if_neg (by simpa using hnonempty), wordsFor, htexts]
  exact ⟨hwords, text_str_eq, bareText_eq, hwords ▸ wordsFor_shownText_eq_iff calls⟩

/-- Strings that are empty, start with quotation marks and have some in them, in entries with
their keys in either order. -/
theorem formatResults_wording_quotedStart :
    let greeting : Value := .str "\"hi\" all"
    let results : List Value :=
      [Session.resultEntry "greet" greeting, .obj [("return", .str ""), ("job", .str "none")],
        Session.resultEntry "list" (.arr [.str "\""])]
    let calls : List (String × Value) :=
      [("greet", greeting), ("none", .str ""), ("list", .arr [.str "\""])]
    results ≠ [] ∧ List.Forall₂ EntryFor results calls ∧
      formatResults results = wordsFor bareText calls ∧
      formatResults results = "greet=\\\"hi\\\" all, none=, list=[\"\\\"\"]" := by
  intro greeting results calls
  have hentries : List.Forall₂ EntryFor results calls :=
    .cons ⟨rfl, rfl⟩ (.cons ⟨rfl, rfl⟩ (.cons ⟨rfl, rfl⟩ .nil))
  obtain ⟨-, -, -, hbare⟩ := formatResults_wording (List.cons_ne_nil _ _) hentries
  exact ⟨List.cons_ne_nil _ _, hentries, hbare.2 (by decide), by decide +kernel⟩

/-- The string `say "hi"` is worded with a backslash at its end. -/
theorem formatResults_ne_quotedEnd :
    let call : String × Value := ("greet", .str "say \"hi\"")
    let results : List Value := [Session.resultEntry call.1 call.2]
    List.Forall₂ EntryFor results [call] ∧
      wordsFor bareText [call] = "greet=say \\\"hi\\\"" ∧
      formatResults results = "greet=say \\\"hi\\" ∧
      formatResults results ≠ wordsFor bareText [call] := by
  intro call results
  exact ⟨.cons ⟨rfl, rfl⟩ .nil, by decide +kernel, by decide +kernel, by decide +kernel⟩

end RunLog

end RuleEngine
