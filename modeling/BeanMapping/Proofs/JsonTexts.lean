import BeanMapping.Json.Parser
import BeanMapping.Json.Printer
import Mathlib.Data.List.Basic

/-!
# Texts of JSON values

A value that is written reads back as it was. Each part of a written value is read up to its end, whatever
follows it: a quoted text ends at its quote, an array and an object at their brackets, and a number where no
digit, point or exponent follows (`EndsNumber`), as is so wherever one is written. The length of the written
part bounds the steps, by induction on the value.

Numbers are integers of 64 bits, which is all that documents hold.

Results:
* `quoted?_quote`: a text in quotes reads back;
* `number?_printNumber`: an integer of 64 bits reads back;
* **`read?_print`**: a value reads back.
-/

namespace BeanMapping.Json

variable {c : Char} {n fuel : Nat} {rest tail : List Char} {v : Json}

/-! ## Quoted texts -/

theorem hexUnit?_of_lt (h : n < 0x20) :
    hexUnit? '0' '0' (Text.hexDigit (n / 16)) (Text.hexDigit (n % 16)) = some n := by
  revert n
  decide

/-- A character reads back from between quotes. -/
theorem quotedChar?_quoteChar (c : Char) (rest : List Char) :
    quotedChar? (quoteChar c ++ rest) = some (some c, rest) := by
  unfold quoteChar
  split
  case h_8 other _ _ _ _ _ =>
    split
    · rename_i control
      have small : c.toNat < 0xD800 ∨ 0xE000 ≤ c.toNat := Or.inl (by omega)
      simp only [List.cons_append, List.nil_append, quotedChar?, hexUnit?_of_lt control]
      simp [small, Char.ofNat_toNat]
    · rename_i printable
      have escape : ¬ (c.toNat < 0x20 ∨ c = '\\') := not_or.mpr ⟨printable, other⟩
      rw [List.singleton_append, quotedChar?, if_neg escape]
      · exact fun _ _ _ _ _ same _ => other same
      · exact fun _ _ same _ => other same
  all_goals rfl

/-- What is written for a character does not begin with a quote. -/
theorem exists_quoteChar_eq (c : Char) : ∃ d ds, quoteChar c = d :: ds ∧ d ≠ '"' := by
  unfold quoteChar
  split
  case h_8 plain _ _ _ _ _ _ =>
    split
    · exact ⟨_, _, rfl, by decide⟩
    · exact ⟨_, _, rfl, plain⟩
  all_goals exact ⟨_, _, rfl, by decide⟩

/-- Characters read back up to the quote after them. -/
theorem quoted?_flatMap {text : List Char} (h : text.length < fuel) :
    quoted? fuel (text.flatMap quoteChar ++ '"' :: rest) = some (some text, rest) := by
  induction text generalizing fuel with
  | nil =>
    obtain ⟨less, rfl⟩ := Nat.exists_eq_succ_of_ne_zero (Nat.ne_of_gt h)
    rfl
  | cons c cs ih =>
    obtain ⟨less, rfl⟩ := Nat.exists_eq_succ_of_ne_zero (Nat.ne_of_gt (Nat.zero_lt_of_lt h))
    rw [List.length_cons] at h
    obtain ⟨d, ds, written, unquoted⟩ := exists_quoteChar_eq c
    have first := quotedChar?_quoteChar c (cs.flatMap quoteChar ++ '"' :: rest)
    rw [List.flatMap_cons, List.append_assoc]
    rw [written, List.cons_append] at first ⊢
    rw [quoted?]
    · simp [first, ih (Nat.lt_of_succ_lt_succ h)]
    · exact fun _ same => unquoted (List.cons.inj same).1

theorem length_le_flatMap_quoteChar (text : List Char) : text.length ≤ (text.flatMap quoteChar).length := by
  induction text with
  | nil => exact Nat.le_refl 0
  | cons c cs ih =>
    obtain ⟨d, ds, written, -⟩ := exists_quoteChar_eq c
    rw [List.flatMap_cons, List.length_append, List.length_cons, written, List.length_cons]
    omega

/-- **A text in quotes reads back**, after its first quote. -/
theorem quoted?_quote (text : String) (h : (quote text).length ≤ fuel + 1) :
    ∃ cs, quote text ++ rest = '"' :: cs ∧ quoted? fuel cs = some (some text.toList, rest) := by
  have length := length_le_flatMap_quoteChar text.toList
  unfold quote at h ⊢
  rw [List.length_cons, List.length_append, List.length_singleton] at h
  exact ⟨text.toList.flatMap quoteChar ++ '"' :: rest, by simp, quoted?_flatMap (by omega)⟩

/-! ## Numbers -/

/-- What follows is no part of a number. -/
def EndsNumber (rest : List Char) : Prop :=
  ∀ c ∈ rest.head?, c.isDigit = false ∧ c ≠ '.' ∧ c ≠ 'e' ∧ c ≠ 'E'

theorem endsNumber_nil : EndsNumber [] := fun _ h => by cases h

theorem endsNumber_cons (digit : c.isDigit = false) (point : c ≠ '.') (e : c ≠ 'e') (capital : c ≠ 'E') :
    EndsNumber (c :: rest) := by
  rintro _ ⟨⟩
  exact ⟨digit, point, e, capital⟩

theorem natOfDigits_natDigits (n : Nat) : natOfDigits (natDigits n) = n := by
  have read := Nat.ofDigitChars_toDigits (n := n) (b := 10) (by decide) (by decide)
  rw [Nat.ofDigitChars_eq_foldl] at read
  unfold natOfDigits natDigits
  simp only [Nat.mul_comm _ 10]
  exact read

theorem isDigit_of_mem_natDigits (h : c ∈ natDigits n) : c.isDigit = true :=
  Nat.isDigit_of_mem_toDigits (by decide) (by decide) h

theorem takeWhile_natDigits (n : Nat) (ends : EndsNumber rest) :
    (natDigits n ++ rest).takeWhile Char.isDigit = natDigits n := by
  rw [List.takeWhile_append_of_pos fun _ h => isDigit_of_mem_natDigits h]
  cases rest with
  | nil => simp
  | cons c cs =>
    rw [List.takeWhile_cons_of_neg (by rw [(ends c rfl).1]; exact Bool.false_ne_true), List.append_nil]

theorem dropWhile_natDigits (n : Nat) (ends : EndsNumber rest) :
    (natDigits n ++ rest).dropWhile Char.isDigit = rest := by
  rw [List.dropWhile_append_of_pos fun _ h => isDigit_of_mem_natDigits h]
  cases rest with
  | nil => rfl
  | cons c cs => rw [List.dropWhile_cons_of_neg (by rw [(ends c rfl).1]; exact Bool.false_ne_true)]

/-- Digits do not begin with a zero, unless it is the only one. -/
theorem exists_natDigits_eq (h : n ≠ 0) : ∃ c cs, natDigits n = c :: cs ∧ c ≠ '0' := by
  induction n using Nat.strongRecOn with
  | ind n ih =>
    unfold natDigits at ih ⊢
    rw [Nat.toDigits_eq_if (by decide)]
    split
    · exact ⟨_, _, rfl, fun zero => h (Nat.digitChar_eq_zero.mp zero)⟩
    · rename_i large
      obtain ⟨c, cs, digits, nonzero⟩ := ih (n / 10) (by omega) (by omega)
      exact ⟨c, cs ++ [Nat.digitChar (n % 10)], by rw [digits]; rfl, nonzero⟩

theorem wholePart?_natDigits (n : Nat) (ends : EndsNumber rest) :
    wholePart? (natDigits n ++ rest) = some (natDigits n, rest) := by
  by_cases zero : n = 0
  · subst zero
    rfl
  · have taken := takeWhile_natDigits n ends
    have dropped := dropWhile_natDigits n ends
    obtain ⟨c, cs, digits, nonzero⟩ := exists_natDigits_eq zero
    rw [digits, List.cons_append] at taken dropped ⊢
    rw [wholePart?, taken, dropped]
    exact fun _ same => nonzero (List.cons.inj same).1

theorem fraction?_of_ends (ends : EndsNumber rest) : fraction? rest = some ([], rest) := by
  unfold fraction?
  split
  · exact absurd rfl (ends _ rfl).2.1
  · rfl

theorem exponent?_of_ends (ends : EndsNumber rest) : exponent? rest = some (none, rest) := by
  unfold exponent?
  split
  · obtain ⟨-, -, e, capital⟩ := ends _ rfl
    rw [if_neg (not_or.mpr ⟨e, capital⟩)]
  · rfl

theorem unsigned?_natDigits (negative : Bool) (n : Nat) (ends : EndsNumber rest) :
    unsigned? negative (natDigits n ++ rest) = some (numberOf negative (natDigits n) [] none, rest) := by
  unfold unsigned?
  simp [wholePart?_natDigits n ends, fraction?_of_ends ends, exponent?_of_ends ends]

theorem numberOf_natural (h : n < Nat.pow 2 64) : numberOf false (natDigits n) [] none = .int n := by
  unfold numberOf
  simp [natOfDigits_natDigits, h]

theorem numberOf_negative (positive : 0 < n) (h : n ≤ Nat.pow 2 63) :
    numberOf true (natDigits n) [] none = .int (-n) := by
  unfold numberOf
  simp [natOfDigits_natDigits, positive, h]

theorem exists_natDigits_eq_digit (n : Nat) : ∃ c cs, natDigits n = c :: cs ∧ c.isDigit = true := by
  cases digits : natDigits n with
  | nil => exact absurd digits Nat.toDigits_ne_nil
  | cons c cs => exact ⟨c, cs, rfl, isDigit_of_mem_natDigits (digits ▸ List.mem_cons_self)⟩

/-- **An integer of 64 bits reads back.** -/
theorem number?_printNumber {n : Int} (low : -(Nat.pow 2 63 : Nat) ≤ n) (high : n < (Nat.pow 2 64 : Nat))
    (ends : EndsNumber rest) :
    number? (printNumber (.int n) ++ rest) = some (.int n, rest) := by
  cases n with
  | ofNat n =>
    have small : n < Nat.pow 2 64 := Int.ofNat_lt.mp high
    have read := unsigned?_natDigits false n ends
    obtain ⟨c, cs, digits, digit⟩ := exists_natDigits_eq_digit n
    rw [numberOf_natural small, digits] at read
    rw [printNumber, digits]
    rw [List.cons_append] at read ⊢
    rw [number?, read]
    · rfl
    · intro _ same
      rw [(List.cons.inj same).1] at digit
      exact absurd digit (by decide)
  | negSucc n =>
    have small : n + 1 ≤ Nat.pow 2 63 := by
      rw [Int.negSucc_eq] at low
      omega
    rw [printNumber, List.cons_append, number?, unsigned?_natDigits true (n + 1) ends,
      numberOf_negative (Nat.succ_pos n) small]
    rfl

/-! ## Values -/

/-- A value whose numbers are integers of 64 bits. -/
inductive Integral : Json → Prop
  | null : Integral .null
  | bool (b : Bool) : Integral (.bool b)
  | int {n : Int} (low : -(Nat.pow 2 63 : Nat) ≤ n) (high : n < (Nat.pow 2 64 : Nat)) :
    Integral (.num (.int n))
  | str (text : String) : Integral (.str text)
  | arr {items : List Json} (each : ∀ v ∈ items, Integral v) : Integral (.arr items)
  | obj {fields : List (String × Json)} (each : ∀ f ∈ fields, Integral f.2) : Integral (.obj fields)

/-- A character that begins a value: no blank, and nothing that ends an array or an object. -/
def Begins (c : Char) : Prop :=
  c ≠ ' ' ∧ c ≠ '\n' ∧ c ≠ '\t' ∧ c ≠ '\r' ∧ c ≠ ']' ∧ c ≠ '}'

instance (c : Char) : Decidable (Begins c) :=
  inferInstanceAs (Decidable (_ ∧ _))

theorem begins_of_isDigit (h : c.isDigit = true) : Begins c := by
  refine ⟨?_, ?_, ?_, ?_, ?_, ?_⟩ <;>
  · rintro rfl
    exact absurd h (by decide)

theorem Begins.skipBlanks_eq (h : Begins c) (cs : List Char) : skipBlanks (c :: cs) = c :: cs := by
  obtain ⟨space, line, tab, carriage, -, -⟩ := h
  unfold skipBlanks
  rw [List.dropWhile_cons_of_neg]
  simp [space, line, tab, carriage]

/-- What is written for a value begins one. -/
theorem exists_write_eq (h : Integral v) : ∃ c cs, write v = c :: cs ∧ Begins c := by
  cases h with
  | null => exact ⟨_, _, rfl, by decide⟩
  | bool b => cases b <;> exact ⟨_, _, rfl, by decide⟩
  | @int n low high =>
    cases n with
    | ofNat n =>
      obtain ⟨c, cs, digits, digit⟩ := exists_natDigits_eq_digit n
      exact ⟨c, cs, digits, begins_of_isDigit digit⟩
    | negSucc n => exact ⟨_, _, rfl, by decide⟩
  | str text => exact ⟨_, _, rfl, by decide⟩
  | @arr items _ => cases items <;> exact ⟨_, _, rfl, by decide⟩
  | @obj fields _ => rcases fields with _ | ⟨⟨n, v⟩, rest⟩ <;> exact ⟨_, _, rfl, by decide⟩

/-- A value reads back where its text is followed by what ends a number. -/
def ReadsBack (v : Json) : Prop :=
  ∀ {fuel rest}, EndsNumber rest → (write v).length ≤ fuel → value? fuel (write v ++ rest) = some (v, rest)

theorem endsNumber_writeItems (items : List Json) (rest : List Char) :
    EndsNumber (writeItems items ++ rest) := by
  cases items <;> exact endsNumber_cons (by decide) (by decide) (by decide) (by decide)

theorem endsNumber_writeFields (fields : List (String × Json)) (rest : List Char) :
    EndsNumber (writeFields fields ++ rest) := by
  rcases fields with _ | ⟨⟨n, v⟩, fields⟩ <;>
    exact endsNumber_cons (by decide) (by decide) (by decide) (by decide)

theorem length_writeItems_pos (items : List Json) : 0 < (writeItems items).length := by
  cases items <;> exact Nat.succ_pos _

theorem length_writeFields_pos (fields : List (String × Json)) : 0 < (writeFields fields).length := by
  rcases fields with _ | ⟨⟨n, v⟩, fields⟩ <;> exact Nat.succ_pos _

/-- Items read back, from one of them to the closing bracket. -/
theorem items?_write {items : List Json} (first : ReadsBack v) (each : ∀ w ∈ items, ReadsBack w)
    (h : (write v ++ writeItems items).length ≤ fuel) :
    items? fuel (write v ++ (writeItems items ++ rest)) = some (v :: items, rest) := by
  induction items generalizing v fuel with
  | nil =>
    have positive := length_writeItems_pos []
    rw [List.length_append] at h
    obtain ⟨less, rfl⟩ := Nat.exists_eq_succ_of_ne_zero (show fuel ≠ 0 by omega)
    rw [items?, first (endsNumber_writeItems [] rest) (by omega)]
    rfl
  | cons w items ih =>
    have positive := length_writeItems_pos (w :: items)
    rw [List.length_append] at h
    obtain ⟨less, rfl⟩ := Nat.exists_eq_succ_of_ne_zero (show fuel ≠ 0 by omega)
    obtain ⟨second, others⟩ := List.forall_mem_cons.mp each
    have written : writeItems (w :: items) = ',' :: (write w ++ writeItems items) := rfl
    rw [written, List.length_cons] at h
    have later : items? less (write w ++ (writeItems items ++ rest)) = some (w :: items, rest) :=
      ih second others (by omega)
    rw [items?, first (endsNumber_writeItems (w :: items) rest) (by omega)]
    rw [written, List.cons_append, List.append_assoc]
    show (items? less (write w ++ (writeItems items ++ rest))).map _ = _
    rw [later]
    rfl

/-- The members from one that is read already: it is the last one, or more follow it. -/
def fieldsFrom? (fuel : Nat) (member : String × Json) (tail : List Char) :
    Option (Option (List (String × Json)) × List Char) :=
  match skipBlanks tail with
  | '}' :: rest => some (some [member], rest)
  | ',' :: rest => (fields? fuel rest).map fun (fields, rest) => (fields.map (member :: ·), rest)
  | _ => none

/-- A member reads back, and then what follows it decides. -/
theorem fields?_member (name : String) (value : ReadsBack v) (ends : EndsNumber tail)
    (named : (quote name).length ≤ fuel + 1) (written : (write v).length ≤ fuel) :
    fields? (fuel + 1) (quote name ++ ':' :: (write v ++ tail)) = fieldsFrom? fuel (name, v) tail := by
  obtain ⟨cs, quoted, read⟩ := @quoted?_quote fuel (':' :: (write v ++ tail)) name named
  have opening : skipBlanks ('"' :: cs) = '"' :: cs := rfl
  have colon : skipBlanks (':' :: (write v ++ tail)) = ':' :: (write v ++ tail) := rfl
  rw [quoted, fields?, opening]
  simp only [read, colon, value ends written, Option.map_some, String.ofList_toList, Option.bind_some]
  rfl

/-- Members read back, from one of them to the closing brace. -/
theorem fields?_write {fields : List (String × Json)} (name : String) (value : ReadsBack v)
    (each : ∀ f ∈ fields, ReadsBack f.2)
    (h : (quote name ++ ':' :: (write v ++ writeFields fields)).length ≤ fuel) :
    fields? fuel (quote name ++ ':' :: (write v ++ (writeFields fields ++ rest))) =
      some (some ((name, v) :: fields), rest) := by
  induction fields generalizing v name fuel with
  | nil =>
    have positive := length_writeFields_pos []
    rw [List.length_append, List.length_cons, List.length_append] at h
    obtain ⟨less, rfl⟩ := Nat.exists_eq_succ_of_ne_zero (show fuel ≠ 0 by omega)
    exact fields?_member name value (endsNumber_writeFields [] rest) (by omega) (by omega)
  | cons f fields ih =>
    obtain ⟨second, w⟩ := f
    have positive := length_writeFields_pos ((second, w) :: fields)
    rw [List.length_append, List.length_cons, List.length_append] at h
    obtain ⟨less, rfl⟩ := Nat.exists_eq_succ_of_ne_zero (show fuel ≠ 0 by omega)
    obtain ⟨next, others⟩ := List.forall_mem_cons.mp each
    have next : ReadsBack w := next
    have written : writeFields ((second, w) :: fields) =
        ',' :: (quote second ++ ':' :: (write w ++ writeFields fields)) := rfl
    rw [written, List.length_cons] at h
    have later : fields? less (quote second ++ ':' :: (write w ++ (writeFields fields ++ rest))) =
        some (some ((second, w) :: fields), rest) := ih second next others (by omega)
    rw [fields?_member name value (endsNumber_writeFields _ rest) (by omega) (by omega), written,
      List.cons_append, List.append_assoc, List.cons_append, List.append_assoc]
    show (fields? less (quote second ++ ':' :: (write w ++ (writeFields fields ++ rest)))).map _ = _
    rw [later]
    rfl

/-- What begins with the first character of a number is read as one. -/
theorem value?_of_number (first : c.isDigit = true ∨ c = '-') (cs : List Char) :
    value? (fuel + 1) (c :: cs) = (number? (c :: cs)).map fun (n, rest) => (ofNumber n, rest) := by
  have begins : Begins c := by
    rcases first with digit | rfl
    · exact begins_of_isDigit digit
    · decide
  have other : ∀ d, d.isDigit = false → d ≠ '-' → c ≠ d := by
    rintro d nondigit nonsign rfl
    rcases first with digit | sign
    · exact absurd (digit.symm.trans nondigit) (by simp)
    · exact nonsign sign
  rw [value?, begins.skipBlanks_eq]
  split
  case h_7 => rfl
  -- everything else that a value begins with is no part of a number
  all_goals
    rename_i same
    exact absurd (List.cons.inj same).1 (other _ (by decide) (by decide))

theorem value?_of_items (begins : Begins c) (cs : List Char) :
    value? (fuel + 1) ('[' :: c :: cs) =
      (items? fuel (c :: cs)).map fun (items, rest) => (.arr items, rest) := by
  have opening : skipBlanks ('[' :: c :: cs) = '[' :: c :: cs := rfl
  rw [value?, opening]
  simp only [begins.skipBlanks_eq]
  split
  · rename_i same
    exact absurd (List.cons.inj same).1 begins.2.2.2.2.1
  · rfl

theorem value?_of_fields (cs : List Char) :
    value? (fuel + 1) ('{' :: '"' :: cs) =
      (fields? fuel ('"' :: cs)).map fun (fields, rest) => (ofMembers fields, rest) := rfl

theorem exists_printNumber_eq (n : Int) :
    ∃ c cs, printNumber (.int n) = c :: cs ∧ (c.isDigit = true ∨ c = '-') := by
  cases n with
  | ofNat n =>
    obtain ⟨c, cs, digits, digit⟩ := exists_natDigits_eq_digit n
    exact ⟨c, cs, digits, Or.inl digit⟩
  | negSucc n => exact ⟨_, _, rfl, Or.inr rfl⟩

/-- As something is written for a value, there is a step to read it by. -/
theorem readsBack_of_step (h : Integral v)
    (step : ∀ {fuel rest}, EndsNumber rest → (write v).length ≤ fuel + 1 →
      value? (fuel + 1) (write v ++ rest) = some (v, rest)) : ReadsBack v := by
  intro fuel rest ends bound
  obtain ⟨c, cs, written, -⟩ := exists_write_eq h
  cases fuel with
  | zero =>
    rw [written] at bound
    cases bound
  | succ fuel => exact step ends bound

/-- **A value reads back**, whatever follows that is no part of it. -/
theorem value?_write (h : Integral v) : ReadsBack v := by
  induction h with
  | null => exact readsBack_of_step .null fun _ _ => rfl
  | bool b =>
    refine readsBack_of_step (.bool b) fun _ _ => ?_
    cases b <;> rfl
  | @int n low high =>
    refine readsBack_of_step (.int low high) fun ends _ => ?_
    have read := number?_printNumber low high ends
    obtain ⟨c, cs, printed, first⟩ := exists_printNumber_eq n
    rw [write]
    rw [printed, List.cons_append] at read ⊢
    rw [value?_of_number first, read]
    rfl
  | str text =>
    refine readsBack_of_step (.str text) @fun fuel rest _ h => ?_
    obtain ⟨cs, quoted, read⟩ := @quoted?_quote fuel rest text h
    have opening : skipBlanks ('"' :: cs) = '"' :: cs := rfl
    rw [write, quoted, value?, opening]
    simp only [read, Option.map_some, ofQuoted, String.ofList_toList]
  | @arr items integral each =>
    refine readsBack_of_step (.arr integral) @fun fuel rest _ h => ?_
    rcases items with _ | ⟨v, items⟩
    · rfl
    · obtain ⟨first, others⟩ := List.forall_mem_cons.mp each
      obtain ⟨c, cs, written, begins⟩ := exists_write_eq (integral v List.mem_cons_self)
      have read : items? fuel (write v ++ (writeItems items ++ rest)) = some (v :: items, rest) :=
        items?_write first others (Nat.le_of_succ_le_succ h)
      rw [write, List.cons_append, List.append_assoc]
      rw [written, List.cons_append] at read ⊢
      rw [value?_of_items begins, read]
      rfl
  | @obj fields integral each =>
    refine readsBack_of_step (.obj integral) @fun fuel rest _ h => ?_
    rcases fields with _ | ⟨⟨name, v⟩, fields⟩
    · rfl
    · obtain ⟨first, others⟩ := List.forall_mem_cons.mp each
      have read : fields? fuel (quote name ++ ':' :: (write v ++ (writeFields fields ++ rest))) =
          some (some ((name, v) :: fields), rest) :=
        fields?_write name first others (Nat.le_of_succ_le_succ h)
      rw [write, List.cons_append, List.append_assoc, List.cons_append, List.append_assoc]
      rw [quote, List.cons_append] at read ⊢
      rw [value?_of_fields, read]
      rfl

/-- **What is printed is read back.** -/
theorem read?_print (h : Integral v) : read? (print v) = some v := by
  have read : value? (2 * (write v).length + 2) (write v ++ []) = some (v, []) :=
    value?_write h endsNumber_nil (by omega)
  rw [List.append_nil] at read
  unfold read? print
  rw [String.toList_ofList]
  simp only [read]
  rfl

end BeanMapping.Json
