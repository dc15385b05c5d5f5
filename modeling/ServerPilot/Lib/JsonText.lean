import Mathlib.Data.List.TakeWhile
import Mathlib.Tactic.IntervalCases
import ServerPilot.Lib.Document

/-!
# JSON texts

`print` writes a JSON value the way `json.dumps` does with compact separators, in ASCII; `loads`
reads a text the way `json.loads` does. How a float is written and read is a parameter. What is
printed of a value without floats, whose objects have different keys, reads back as that value
(`loads_print`).
-/

namespace JsonText

open ServerPilot

/-! ## Writing -/

/-- Four hexadecimal digits. -/
def hex4 (n : ℕ) : List Char :=
  [Nat.digitChar (n / 4096 % 16), Nat.digitChar (n / 256 % 16), Nat.digitChar (n / 16 % 16),
    Nat.digitChar (n % 16)]

/-- The characters with an escape of their own, and its letter. -/
def shortEscapes : List (Char × Char) :=
  [('"', '"'), ('\\', '\\'), ('\n', 'n'), ('\r', 'r'), ('\t', 't'), ('\x08', 'b'), ('\x0c', 'f')]

/-- A character of a string; one beyond the basic plane is a surrogate pair. -/
def escape (c : Char) : List Char :=
  match shortEscapes.lookup c with
  | some letter => ['\\', letter]
  | none =>
    if 0x20 ≤ c.toNat ∧ c.toNat ≤ 0x7e then [c]
    else if c.toNat < 0x10000 then '\\' :: 'u' :: hex4 c.toNat
    else
      '\\' :: 'u' :: (hex4 (0xd800 + (c.toNat - 0x10000) / 0x400) ++
        '\\' :: 'u' :: hex4 (0xdc00 + (c.toNat - 0x10000) % 0x400))

def quote (s : String) : List Char := '"' :: (s.toList.flatMap escape ++ ['"'])

def printInt : ℤ → List Char
  | .ofNat n => Nat.toDigits 10 n
  | .negSucc n => '-' :: Nat.toDigits 10 (n + 1)

section

variable (printFloat : Double → List Char)

mutual

/-- `json.dumps(value, separators=(",", ":"))`. -/
def print : Json → List Char
  | .null => ['n', 'u', 'l', 'l']
  | .bool true => ['t', 'r', 'u', 'e']
  | .bool false => ['f', 'a', 'l', 's', 'e']
  | .int n => printInt n
  | .float x => printFloat x
  | .text s => quote s
  | .list items => '[' :: (printItems items ++ [']'])
  | .object fields => '\x7b' :: (printFields fields ++ ['\x7d'])

/-- Items with commas between them. -/
def printItems : List Json → List Char
  | [] => []
  | j :: js => print j ++ printMore js

/-- The items after the first. -/
def printMore : List Json → List Char
  | [] => []
  | j :: js => ',' :: (print j ++ printMore js)

def printField : String × Json → List Char
  | (key, j) => quote key ++ ':' :: print j

def printFields : List (String × Json) → List Char
  | [] => []
  | f :: fs => printField f ++ printMoreFields fs

def printMoreFields : List (String × Json) → List Char
  | [] => []
  | f :: fs => ',' :: (printField f ++ printMoreFields fs)

end

end

/-! ## Reading -/

def isSpace (c : Char) : Bool := c = ' ' || c = '\t' || c = '\n' || c = '\r'

/-- Without the white space it begins with. -/
def skip (s : List Char) : List Char := s.dropWhile isSpace

def hexValue (c : Char) : Option ℕ :=
  if '0' ≤ c ∧ c ≤ '9' then some (c.toNat - '0'.toNat)
  else if 'a' ≤ c ∧ c ≤ 'f' then some (c.toNat - 'a'.toNat + 10)
  else if 'A' ≤ c ∧ c ≤ 'F' then some (c.toNat - 'A'.toNat + 10)
  else none

/-- Four hexadecimal digits at the start of a text. -/
def readHex4 : List Char → Option (ℕ × List Char)
  | a :: b :: c :: d :: s => do
    let a ← hexValue a
    let b ← hexValue b
    let c ← hexValue c
    let d ← hexValue d
    some (a * 4096 + b * 256 + c * 16 + d, s)
  | _ => none

def charOf (n : ℕ) : Option Char := if n.isValidChar then some (Char.ofNat n) else none

/-- The second half of a surrogate pair. A half without the other is no character. -/
def readLow (high : ℕ) : List Char → Option (Char × List Char)
  | '\\' :: 'u' :: s =>
    match readHex4 s with
    | some (low, s) =>
      if 0xdc00 ≤ low ∧ low ≤ 0xdfff then
        (charOf (0x10000 + (high - 0xd800) * 0x400 + (low - 0xdc00))).map (·, s)
      else none
    | none => none
  | _ => none

/-- What follows a backslash. -/
def readEscape : List Char → Option (Char × List Char)
  | 'u' :: s =>
    match readHex4 s with
    | some (n, s) => if 0xd800 ≤ n ∧ n ≤ 0xdbff then readLow n s else (charOf n).map (·, s)
    | none => none
  | '/' :: s => some ('/', s)
  | letter :: s => ((shortEscapes.find? fun x => x.2 = letter).map Prod.fst).map (·, s)
  | [] => none

/-- One character of a string. -/
def readChar : List Char → Option (Char × List Char)
  | '\\' :: s => readEscape s
  | c :: s => if c.toNat < 0x20 then none else some (c, s)
  | [] => none

/-- A string, after its first quote. -/
def readString : ℕ → List Char → Option (List Char × List Char)
  | 0, _ => none
  | _ + 1, '"' :: s => some ([], s)
  | n + 1, s =>
    match readChar s with
    | some (c, s) => (readString n s).map fun x => (c :: x.1, x.2)
    | none => none

/-- The characters of numbers; one of them after a number is an error. -/
def isNumeral (c : Char) : Bool :=
  c.isDigit || c = '-' || c = '+' || c = '.' || c = 'e' || c = 'E'

/-- A natural number without leading zeros. -/
def readDigits (digits : List Char) : Option ℕ :=
  if digits ≠ [] ∧ (digits.all Char.isDigit) = true ∧
      (digits = ['0'] ∨ digits.head? ≠ some '0') then
    some (Nat.ofDigitChars 10 digits 0)
  else none

def readInt (token : List Char) : Option ℤ :=
  match token with
  | '-' :: digits => (readDigits digits).map fun n => -(n : ℤ)
  | digits => (readDigits digits).map fun n => (n : ℤ)

/-- `dict(pairs)`: the last value of a key, where the key first stood. -/
def dictOf (pairs : List (String × Json)) : List (String × Json) :=
  pairs.foldl (fun d x =>
    if x.1 ∈ d.map Prod.fst then d.map fun y => if y.1 = x.1 then x else y else d ++ [x]) []

section

variable (readFloat : List Char → Option Double)

/-- A whole number, or else a float. -/
def readNumber (token : List Char) : Option Json :=
  match readInt token with
  | some n => some (.int n)
  | none => (readFloat token).map .float

mutual

/-- A value at the start of a text, and what follows it. -/
def value : ℕ → List Char → Option (Json × List Char)
  | 0, _ => none
  | n + 1, s =>
    match s with
    | '"' :: s => (readString (s.length + 1) s).map fun x => (.text (String.ofList x.1), x.2)
    | '[' :: s =>
      match skip s with
      | ']' :: s => some (.list [], s)
      | s => (items n s).map fun x => (.list x.1, x.2)
    | '\x7b' :: s =>
      match skip s with
      | '\x7d' :: s => some (.object [], s)
      | s => (fields n s).map fun x => (.object (dictOf x.1), x.2)
    | 'n' :: 'u' :: 'l' :: 'l' :: s => some (.null, s)
    | 't' :: 'r' :: 'u' :: 'e' :: s => some (.bool true, s)
    | 'f' :: 'a' :: 'l' :: 's' :: 'e' :: s => some (.bool false, s)
    | 'N' :: 'a' :: 'N' :: s => some (.float .nan, s)
    | 'I' :: 'n' :: 'f' :: 'i' :: 'n' :: 'i' :: 't' :: 'y' :: s =>
      some (.float (.infinite false), s)
    | '-' :: 'I' :: 'n' :: 'f' :: 'i' :: 'n' :: 'i' :: 't' :: 'y' :: s =>
      some (.float (.infinite true), s)
    | s => (readNumber readFloat (s.takeWhile isNumeral)).map (·, s.dropWhile isNumeral)

/-- The items of an array, from the first on. -/
def items : ℕ → List Char → Option (List Json × List Char)
  | 0, _ => none
  | n + 1, s =>
    match value n s with
    | none => none
    | some (j, s) =>
      match skip s with
      | ']' :: s => some ([j], s)
      | ',' :: s => (items n (skip s)).map fun x => (j :: x.1, x.2)
      | _ => none

/-- The fields of an object, from the first on. -/
def fields : ℕ → List Char → Option (List (String × Json) × List Char)
  | 0, _ => none
  | n + 1, s =>
    match field n s with
    | none => none
    | some (f, s) =>
      match skip s with
      | '\x7d' :: s => some ([f], s)
      | ',' :: s => (fields n (skip s)).map fun x => (f :: x.1, x.2)
      | _ => none

/-- A key, a colon and a value. -/
def field : ℕ → List Char → Option ((String × Json) × List Char)
  | 0, _ => none
  | n + 1, s =>
    match s with
    | '"' :: s =>
      match readString (s.length + 1) s with
      | none => none
      | some (key, s) =>
        match skip s with
        | ':' :: s => (value n (skip s)).map fun x => ((String.ofList key, x.1), x.2)
        | _ => none
    | _ => none

end

/-- `json.loads`. -/
def loads (s : List Char) : Option Json :=
  match value readFloat (s.length + 1) (skip s) with
  | some (j, rest) => if skip rest = [] then some j else none
  | none => none

end

/-! ## What was written is read -/

/-- No floats, and different keys in every object. -/
inductive Plain : Json → Prop
  | null : Plain .null
  | bool (b : Bool) : Plain (.bool b)
  | int (n : ℤ) : Plain (.int n)
  | text (s : String) : Plain (.text s)
  | list {js : List Json} : (∀ j ∈ js, Plain j) → Plain (.list js)
  | object {fs : List (String × Json)} :
      (fs.map Prod.fst).Nodup → (∀ f ∈ fs, Plain f.2) → Plain (.object fs)

/-! ### Strings -/

theorem hexValue_digitChar {n : ℕ} (h : n < 16) : hexValue (Nat.digitChar n) = some n := by
  interval_cases n <;> rfl

theorem readHex4_hex4 {n : ℕ} (h : n < 65536) (s : List Char) :
    readHex4 (hex4 n ++ s) = some (n, s) := by
  have hdigit : ∀ m, hexValue (Nat.digitChar (m % 16)) = some (m % 16) :=
    fun m => hexValue_digitChar (Nat.mod_lt m (by decide))
  have hsum : n / 4096 % 16 * 4096 + n / 256 % 16 * 256 + n / 16 % 16 * 16 + n % 16 = n := by
    omega
  simp only [hex4, List.cons_append, List.nil_append, readHex4, hdigit, Option.bind_eq_bind,
    Option.bind_some, hsum]

theorem charOf_toNat (c : Char) : charOf c.toNat = some c := by
  unfold charOf
  rw [if_pos (show c.toNat.isValidChar from c.valid), Char.ofNat_toNat]

/-- A character is no half of a surrogate pair. -/
theorem toNat_valid (c : Char) : c.toNat < 0xd800 ∨ (0xdfff < c.toNat ∧ c.toNat < 0x110000) :=
  c.valid

theorem readChar_escape (c : Char) (s : List Char) : readChar (escape c ++ s) = some (c, s) := by
  unfold escape
  cases hshort : shortEscapes.lookup c with
  | some letter =>
    have hmem : (c, letter) ∈ shortEscapes := by
      obtain ⟨before, after, heq, -⟩ := List.lookup_eq_some_iff.1 hshort
      rw [heq]
      exact List.mem_append_right _ List.mem_cons_self
    simp only [shortEscapes, List.mem_cons, Prod.mk.injEq, List.not_mem_nil, or_false] at hmem
    rcases hmem with ⟨rfl, rfl⟩ | ⟨rfl, rfl⟩ | ⟨rfl, rfl⟩ | ⟨rfl, rfl⟩ | ⟨rfl, rfl⟩ | ⟨rfl, rfl⟩ |
      ⟨rfl, rfl⟩ <;> rfl
  | none =>
    have hback : c ≠ '\\' := by
      rintro rfl
      cases hshort
    simp only
    split_ifs with hascii hbasic
    · rw [List.singleton_append]
      unfold readChar
      split
      · rename_i heq
        exact absurd (List.cons.inj heq).1 hback
      · rename_i heq
        cases heq
        rw [if_neg (by omega)]
      · rename_i heq
        cases heq
    · have hvalid := toNat_valid c
      simp only [List.cons_append, readChar, readEscape,
        readHex4_hex4 (show c.toNat < 65536 from hbasic)]
      rw [if_neg (by omega), charOf_toNat]
      rfl
    · have hvalid := toNat_valid c
      have hhigh : (c.toNat - 0x10000) / 0x400 < 0x400 := by omega
      simp only [List.cons_append, List.append_assoc, readChar, readEscape]
      rw [readHex4_hex4 (by omega)]
      simp only
      rw [if_pos (by omega), readLow, readHex4_hex4 (by omega)]
      simp only
      have hsum : 0x10000 + (0xd800 + (c.toNat - 0x10000) / 0x400 - 0xd800) * 0x400 +
          (0xdc00 + (c.toNat - 0x10000) % 0x400 - 0xdc00) = c.toNat := by
        omega
      rw [if_pos (by omega), hsum, charOf_toNat]
      rfl

/-- An escaped character does not begin with a quote. -/
theorem escape_cons (c : Char) : ∃ a s, escape c = a :: s ∧ a ≠ '"' := by
  unfold escape
  cases hshort : shortEscapes.lookup c with
  | some letter => exact ⟨_, _, rfl, by decide⟩
  | none =>
    simp only
    split_ifs
    · refine ⟨_, _, rfl, ?_⟩
      rintro rfl
      cases hshort
    · exact ⟨_, _, rfl, by decide⟩
    · exact ⟨_, _, rfl, by decide⟩

theorem readString_quote : ∀ (cs : List Char) {n : ℕ} (rest : List Char), cs.length < n →
    readString n (cs.flatMap escape ++ '"' :: rest) = some (cs, rest)
  | [], n + 1, rest, _ => rfl
  | c :: cs, n + 1, rest, h => by
    obtain ⟨a, s, hesc, ha⟩ := escape_cons c
    have hread := readChar_escape c (cs.flatMap escape ++ '"' :: rest)
    rw [List.flatMap_cons, List.append_assoc]
    rw [hesc, List.cons_append] at hread ⊢
    rw [readString]
    · rw [hread]
      simp only
      rw [readString_quote cs rest (Nat.lt_of_succ_lt_succ h)]
      rfl
    · intro s' heq
      exact ha (List.cons.inj heq).1

theorem length_le_flatMap_escape : ∀ cs : List Char, cs.length ≤ (cs.flatMap escape).length
  | [] => le_rfl
  | c :: cs => by
    obtain ⟨a, s, hesc, -⟩ := escape_cons c
    have ih := length_le_flatMap_escape cs
    rw [List.flatMap_cons, List.length_append, hesc, List.length_cons, List.length_cons]
    omega

/-- A quoted string, after its first quote. -/
theorem readString_of_quote (s : String) (rest : List Char) :
    readString ((s.toList.flatMap escape ++ '"' :: rest).length + 1)
      (s.toList.flatMap escape ++ '"' :: rest) = some (s.toList, rest) := by
  refine readString_quote _ _ ?_
  have := length_le_flatMap_escape s.toList
  rw [List.length_append]
  omega

/-! ### Numbers -/

theorem head_toDigits {n : ℕ} (h : 0 < n) : (Nat.toDigits 10 n).head? ≠ some '0' := by
  induction n using Nat.strong_induction_on with
  | _ n ih =>
    rcases Nat.lt_or_ge n 10 with hlt | hge
    · rw [Nat.toDigits_of_lt_base hlt]
      interval_cases n <;> decide
    · rw [Nat.toDigits_of_base_le (by decide) hge,
        List.head?_append_of_ne_nil _ Nat.toDigits_ne_nil]
      exact ih (n / 10) (by omega) (by omega)

theorem readDigits_toDigits (n : ℕ) : readDigits (Nat.toDigits 10 n) = some n := by
  unfold readDigits
  rw [if_pos, Nat.ofDigitChars_toDigits (by decide) (by decide)]
  refine ⟨Nat.toDigits_ne_nil, ?_, ?_⟩
  · exact List.all_eq_true.2 fun c hc => Nat.isDigit_of_mem_toDigits (by decide) (by decide) hc
  · rcases Nat.eq_zero_or_pos n with rfl | hpos
    · exact Or.inl (Nat.toDigits_zero 10)
    · exact Or.inr (head_toDigits hpos)

theorem toDigits_cons (n : ℕ) : ∃ c s, Nat.toDigits 10 n = c :: s ∧ c.isDigit = true := by
  cases h : Nat.toDigits 10 n with
  | nil => exact absurd h Nat.toDigits_ne_nil
  | cons c s =>
    refine ⟨c, s, rfl, Nat.isDigit_of_mem_toDigits (n := n) (b := 10) (by decide) (by decide) ?_⟩
    rw [h]
    exact List.mem_cons_self

theorem readInt_printInt (n : ℤ) : readInt (printInt n) = some n := by
  cases n with
  | ofNat n =>
    obtain ⟨c, s, hd, hc⟩ := toDigits_cons n
    have hread := readDigits_toDigits n
    rw [printInt, hd] at *
    unfold readInt
    split
    · rename_i heq
      rw [(List.cons.inj heq).1] at hc
      cases hc
    · rw [hread]
      rfl
  | negSucc n =>
    rw [printInt, readInt, readDigits_toDigits]
    rfl

theorem isNumeral_of_mem_printInt {n : ℤ} {c : Char} (h : c ∈ printInt n) : isNumeral c = true := by
  have hdigit : ∀ {m : ℕ}, c ∈ Nat.toDigits 10 m → isNumeral c = true := by
    intro m hm
    unfold isNumeral
    rw [Nat.isDigit_of_mem_toDigits (by decide) (by decide) hm]
    rfl
  cases n with
  | ofNat n => exact hdigit h
  | negSucc n =>
    rcases List.mem_cons.1 h with rfl | h
    · rfl
    · exact hdigit h

/-! ### Values -/

/-- A text that does not go on with a number. -/
def Ends (rest : List Char) : Prop := ∀ c ∈ rest.head?, isNumeral c = false

theorem ends_cons {c : Char} (h : isNumeral c = false) (rest : List Char) : Ends (c :: rest) := by
  intro d hd
  cases hd
  exact h

theorem skip_cons {c : Char} (h : isSpace c = false) (s : List Char) : skip (c :: s) = c :: s :=
  List.dropWhile_cons_of_neg (by rw [h]; decide)

variable (printFloat : Double → List Char) (readFloat : List Char → Option Double)

/-- A value begins with no space and no closing bracket. -/
theorem print_cons {j : Json} (h : Plain j) :
    ∃ c s, print printFloat j = c :: s ∧ isSpace c = false ∧ c ≠ ']' := by
  have hint : ∀ c : Char, isNumeral c = true → isSpace c = false ∧ c ≠ ']' := by
    intro c hc
    constructor
    · rw [← Bool.not_eq_true]
      intro hs
      simp only [isSpace, Bool.or_eq_true, decide_eq_true_eq] at hs
      rcases hs with ((rfl | rfl) | rfl) | rfl <;> cases hc
    · rintro rfl
      cases hc
  cases h with
  | null => exact ⟨_, _, rfl, by decide, by decide⟩
  | bool b => cases b <;> exact ⟨_, _, rfl, by decide, by decide⟩
  | text s => exact ⟨_, _, rfl, by decide, by decide⟩
  | list h => exact ⟨_, _, rfl, by decide, by decide⟩
  | object hn h => exact ⟨_, _, rfl, by decide, by decide⟩
  | int n =>
    cases hp : printInt n with
    | nil =>
      have hread := readInt_printInt n
      rw [hp] at hread
      cases hread
    | cons c s =>
      refine ⟨c, s, hp, hint c (isNumeral_of_mem_printInt (n := n) ?_)⟩
      rw [hp]
      exact List.mem_cons_self

theorem value_int (n : ℤ) (k : ℕ) {rest : List Char} (hrest : Ends rest) :
    value readFloat (k + 1) (printInt n ++ rest) = some (.int n, rest) := by
  have hall : ∀ c ∈ printInt n, isNumeral c = true := fun c hc => isNumeral_of_mem_printInt hc
  have htake : (printInt n ++ rest).takeWhile isNumeral = printInt n := by
    rw [List.takeWhile_append_of_pos hall]
    cases rest with
    | nil => simp
    | cons c rest => rw [List.takeWhile_cons_of_neg (by rw [hrest c rfl]; decide), List.append_nil]
  have hdrop : (printInt n ++ rest).dropWhile isNumeral = rest := by
    rw [List.dropWhile_append_of_pos hall]
    cases rest with
    | nil => rfl
    | cons c rest => exact List.dropWhile_cons_of_neg (by rw [hrest c rfl]; decide)
  have hnumber : readNumber readFloat (printInt n) = some (.int n) := by
    rw [readNumber, readInt_printInt]
  -- no other kind of value begins with a digit, or with a sign and a digit
  have hfirst : ∀ c s, printInt n ++ rest = c :: s →
      c.isDigit = true ∨ (c = '-' ∧ ∃ d t, s = d :: t ∧ d.isDigit = true) := by
    intro c s hs
    cases n with
    | ofNat n =>
      obtain ⟨d, t, hd, hdigit⟩ := toDigits_cons n
      rw [printInt, hd] at hs
      cases hs
      exact Or.inl hdigit
    | negSucc n =>
      obtain ⟨d, t, hd, hdigit⟩ := toDigits_cons (n + 1)
      rw [printInt, hd] at hs
      cases hs
      exact Or.inr ⟨rfl, _, _, rfl, hdigit⟩
  have hother : ∀ c s, printInt n ++ rest = c :: s → c.isDigit = false → c = '-' := by
    intro c s hs hc
    rcases hfirst c s hs with hdigit | ⟨hminus, -⟩
    · rw [hdigit] at hc
      cases hc
    · exact hminus
  unfold value
  split
  case h_10 =>
    rw [htake, hdrop, hnumber]
    rfl
  case h_9 heq =>
    rcases hfirst _ _ heq with hdigit | ⟨-, d, t, hs, hd⟩
    · cases hdigit
    · cases hs
      cases hd
  all_goals
    rename_i heq
    exact absurd (hother _ _ heq (by decide)) (by decide)

/-- The items of an array, given that each reads back. -/
theorem items_print : ∀ (js : List Json) (j : Json) {n : ℕ} (rest : List Char),
    (∀ k ∈ j :: js, Plain k) →
    (∀ k ∈ j :: js, ∀ (n : ℕ) (rest : List Char), (print printFloat k).length < n → Ends rest →
      value readFloat n (print printFloat k ++ rest) = some (k, rest)) →
    (print printFloat j ++ printMore printFloat js).length + 1 < n →
    items readFloat n (print printFloat j ++ printMore printFloat js ++ ']' :: rest) =
      some (j :: js, rest)
  | [], j, n + 1, rest, _, hread, hlen => by
    rw [printMore, List.append_nil] at hlen ⊢
    rw [items, hread j List.mem_cons_self n _ (by omega) (ends_cons (by decide) _)]
    simp only
    rw [skip_cons (by decide)]
    rfl
  | k :: js, j, n + 1, rest, hplain, hread, hlen => by
    rw [printMore, List.length_append, List.length_cons] at hlen
    rw [printMore, List.append_assoc, List.cons_append, items,
      hread j List.mem_cons_self n _ (by omega) (ends_cons (by decide) _)]
    obtain ⟨c, s, hprint, hspace, -⟩ := print_cons printFloat (hplain k (by simp))
    have hskip : skip (print printFloat k ++ printMore printFloat js ++ ']' :: rest) =
        print printFloat k ++ printMore printFloat js ++ ']' :: rest := by
      rw [hprint, List.cons_append, List.cons_append]
      exact skip_cons hspace _
    simp only
    rw [skip_cons (by decide)]
    simp only
    rw [hskip, items_print js k rest (fun x hx => hplain x (List.mem_cons_of_mem _ hx))
      (fun x hx => hread x (List.mem_cons_of_mem _ hx)) (by omega)]
    rfl

/-- A field, given that its value reads back. -/
theorem field_print {f : String × Json} (hplain : Plain f.2)
    (hread : ∀ (n : ℕ) (rest : List Char), (print printFloat f.2).length < n → Ends rest →
      value readFloat n (print printFloat f.2 ++ rest) = some (f.2, rest))
    {n : ℕ} {rest : List Char} (hlen : (printField printFloat f).length < n) (hrest : Ends rest) :
    field readFloat n (printField printFloat f ++ rest) = some (f, rest) := by
  obtain ⟨key, j⟩ := f
  cases n with
  | zero => cases hlen
  | succ n =>
    obtain ⟨c, s, hprint, hspace, -⟩ := print_cons printFloat hplain
    have hskip : skip (print printFloat j ++ rest) = print printFloat j ++ rest := by
      simp only at hprint
      rw [hprint, List.cons_append]
      exact skip_cons hspace _
    rw [printField, quote] at hlen ⊢
    simp only [List.length_append, List.length_cons] at hlen
    simp only [List.cons_append, List.append_assoc, List.nil_append]
    rw [field, readString_of_quote]
    simp only
    rw [skip_cons (by decide)]
    simp only
    rw [hskip, hread n rest (show (print printFloat j).length < n by omega) hrest,
      Option.map_some, String.ofList_toList]

theorem skip_printField (f : String × Json) (s : List Char) :
    skip (printField printFloat f ++ s) = printField printFloat f ++ s := by
  obtain ⟨key, j⟩ := f
  rw [printField, quote, List.cons_append, List.cons_append]
  exact skip_cons (by decide) _

/-- The fields of an object, given that each value reads back. -/
theorem fields_print : ∀ (fs : List (String × Json)) (f : String × Json) {n : ℕ}
    (rest : List Char), (∀ x ∈ f :: fs, Plain x.2) →
    (∀ x ∈ f :: fs, ∀ (n : ℕ) (rest : List Char), (print printFloat x.2).length < n → Ends rest →
      value readFloat n (print printFloat x.2 ++ rest) = some (x.2, rest)) →
    (printField printFloat f ++ printMoreFields printFloat fs).length + 1 < n →
    fields readFloat n (printField printFloat f ++ printMoreFields printFloat fs ++
      '\x7d' :: rest) = some (f :: fs, rest)
  | [], f, n + 1, rest, hplain, hread, hlen => by
    rw [printMoreFields, List.append_nil] at hlen ⊢
    rw [fields, field_print printFloat readFloat (hplain f List.mem_cons_self)
      (hread f List.mem_cons_self) (by omega) (ends_cons (by decide) _)]
    simp only
    rw [skip_cons (by decide)]
    rfl
  | g :: fs, f, n + 1, rest, hplain, hread, hlen => by
    rw [printMoreFields, List.length_append, List.length_cons] at hlen
    rw [printMoreFields, List.append_assoc, List.cons_append, fields,
      field_print printFloat readFloat (hplain f List.mem_cons_self)
        (hread f List.mem_cons_self) (by omega) (ends_cons (by decide) _)]
    simp only
    rw [skip_cons (by decide)]
    simp only
    rw [List.append_assoc, skip_printField, ← List.append_assoc,
      fields_print fs g rest (fun x hx => hplain x (List.mem_cons_of_mem _ hx))
      (fun x hx => hread x (List.mem_cons_of_mem _ hx)) (by omega)]
    rfl

/-- Different keys make the dict of these fields. -/
theorem dictOf_eq (fs : List (String × Json)) (h : (fs.map Prod.fst).Nodup) : dictOf fs = fs := by
  have hfold : ∀ (fs d : List (String × Json)), ((d ++ fs).map Prod.fst).Nodup →
      fs.foldl (fun d x => if x.1 ∈ d.map Prod.fst then d.map fun y => if y.1 = x.1 then x else y
        else d ++ [x]) d = d ++ fs := by
    intro fs
    induction fs with
    | nil => exact fun d _ => (List.append_nil d).symm
    | cons x fs ih =>
      intro d hd
      have hnew : x.1 ∉ d.map Prod.fst := by
        intro hin
        rw [List.map_append, List.nodup_append] at hd
        exact hd.2.2 x.1 hin x.1 List.mem_cons_self rfl
      rw [List.foldl_cons, if_neg hnew, ih (d ++ [x]) (by simpa using hd), List.append_assoc,
        List.singleton_append]
  exact hfold fs [] h

/-- **A plain value reads back**, whatever follows it that is not part of a number. -/
theorem value_print {j : Json} (h : Plain j) : ∀ (n : ℕ) (rest : List Char),
    (print printFloat j).length < n → Ends rest →
      value readFloat n (print printFloat j ++ rest) = some (j, rest) := by
  induction h with
  | null =>
    intro n rest hlen _
    obtain ⟨n, rfl⟩ : ∃ m, n = m + 1 := ⟨n - 1, by omega⟩
    rfl
  | bool b =>
    intro n rest hlen _
    obtain ⟨n, rfl⟩ : ∃ m, n = m + 1 := ⟨n - 1, by omega⟩
    cases b <;> rfl
  | int k =>
    intro n rest hlen hrest
    obtain ⟨n, rfl⟩ : ∃ m, n = m + 1 := ⟨n - 1, by omega⟩
    exact value_int readFloat k n hrest
  | text s =>
    intro n rest hlen _
    obtain ⟨n, rfl⟩ : ∃ m, n = m + 1 := ⟨n - 1, by omega⟩
    rw [print, quote, List.cons_append, List.append_assoc, List.singleton_append, value,
      readString_of_quote, Option.map_some, String.ofList_toList]
  | @list js hplain ih =>
    intro n rest hlen _
    obtain ⟨n, rfl⟩ : ∃ m, n = m + 1 := ⟨n - 1, by omega⟩
    rw [print] at hlen ⊢
    rw [List.cons_append, List.append_assoc, List.singleton_append, value]
    cases js with
    | nil =>
      rw [printItems, List.nil_append, skip_cons (by decide)]
      rfl
    | cons j js =>
      obtain ⟨c, s, hprint, hspace, hclose⟩ := print_cons printFloat (hplain j List.mem_cons_self)
      have hitems := items_print printFloat readFloat js j (n := n) rest hplain ih (by
        rw [printItems, List.length_cons, List.length_append, List.length_singleton] at hlen
        omega)
      rw [printItems]
      rw [hprint, List.cons_append, List.cons_append] at hitems ⊢
      rw [skip_cons hspace]
      split
      · rename_i heq
        exact absurd (List.cons.inj heq).1 hclose
      · rw [hitems]
        rfl
  | @object fs hn hplain ih =>
    intro n rest hlen _
    obtain ⟨n, rfl⟩ : ∃ m, n = m + 1 := ⟨n - 1, by omega⟩
    rw [print] at hlen ⊢
    rw [List.cons_append, List.append_assoc, List.singleton_append, value]
    cases fs with
    | nil =>
      rw [printFields, List.nil_append, skip_cons (by decide)]
      rfl
    | cons f fs =>
      have hfields := fields_print printFloat readFloat fs f (n := n) rest hplain ih (by
        rw [printFields, List.length_cons, List.length_append, List.length_singleton] at hlen
        omega)
      rw [printFields, List.append_assoc, skip_printField, ← List.append_assoc]
      split
      · rename_i heq
        obtain ⟨key, j⟩ := f
        rw [printField, quote] at heq
        exact absurd (List.cons.inj heq).1 (by decide)
      · rw [hfields, Option.map_some, dictOf_eq _ hn]

/-- **`loads` of what was printed**, with white space after it. -/
theorem loads_print {j : Json} (h : Plain j) {tail : List Char} (htail : skip tail = []) :
    loads readFloat (print printFloat j ++ tail) = some j := by
  have hends : Ends tail := by
    intro c hc
    cases tail with
    | nil => cases hc
    | cons d tail =>
      cases hc
      have hspace : isSpace c = true := by
        by_contra hno
        rw [skip_cons (Bool.eq_false_of_not_eq_true hno)] at htail
        cases htail
      simp only [isSpace, Bool.or_eq_true, decide_eq_true_eq] at hspace
      rcases hspace with ((rfl | rfl) | rfl) | rfl <;> rfl
  obtain ⟨c, s, hprint, hspace, -⟩ := print_cons printFloat h
  have hskip : skip (print printFloat j ++ tail) = print printFloat j ++ tail := by
    rw [hprint, List.cons_append]
    exact skip_cons hspace _
  unfold loads
  rw [hskip, value_print printFloat readFloat h _ tail (by rw [List.length_append]; omega) hends]
  simp only
  rw [if_pos htail]

end JsonText
