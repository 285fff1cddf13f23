import DeviceProfile.Library.Decimal

/-!
# Objects in JSON text

A JSON library prints an object and parses a text, member by member. What a member holds
is told apart as far as C callers read it: a number, saturating at the range of an int,
a string up to its first NUL, or something else. A printer and a parser of flat objects
are given as an instance, and are proved to be inverse.
-/

namespace Library

/-- What a member of an object holds; of a number its fraction is dropped. -/
inductive Item where
  | number (value : Int)
  | string (value : List Char)
  | other
  deriving DecidableEq, Repr

/-- The members of an object, in their order. -/
abbrev Members := List (List Char × Item)

/-- A JSON library. What is no object has no members. -/
structure Json where
  print : Members → List Char
  parse : List Char → Option Members

/-- The text up to its first NUL. -/
def cStr (s : List Char) : List Char := s.takeWhile fun c => decide (c ≠ '\x00')

/-- The largest number that is printed with all its digits. -/
def MAX_PRINTED : Nat := 1000000000000000

namespace Item

/-- Whether an item is a number. -/
def isNumber : Item → Bool
  | number _ => true
  | _ => false

/-- The text of an item that is one. -/
def valuestring : Item → Option (List Char)
  | string value => some value
  | _ => none

/-- The number, at most the largest and at least the smallest int. -/
def valueint : Item → Int
  | number value => max (-2147483648) (min 2147483647 value)
  | _ => 0

/-- A number or a string that is printed as it is. -/
def IsPlain : Item → Prop
  | number value => value.natAbs ≤ MAX_PRINTED
  | string value => '\x00' ∉ value
  | other => False

end Item

/-- The first member of this name, in upper or lower case. -/
def getObjectItem (members : Members) (name : List Char) : Option Item :=
  (members.find? fun m => decide (m.1.map Char.toLower = name.map Char.toLower)).map Prod.snd

/-- What is printed is parsed back. -/
def Json.IsFaithful (json : Json) : Prop :=
  ∀ members : Members, (∀ m ∈ members, '\x00' ∉ m.1 ∧ m.2.IsPlain) →
    json.parse (json.print members) = some members

/-- The text up to the first NUL holds none. -/
theorem not_mem_cStr (s : List Char) : '\x00' ∉ cStr s := by
  intro h
  have hne := List.mem_takeWhile_imp h
  revert hne
  decide

/-- A text is all of its C string when it holds no NUL. -/
theorem cStr_eq_self_iff {s : List Char} : cStr s = s ↔ '\x00' ∉ s := by
  rw [cStr, List.takeWhile_eq_self_iff]
  constructor
  · intro h hmem
    exact of_decide_eq_true (h _ hmem) rfl
  · rintro h c hc
    exact decide_eq_true fun heq => h (heq ▸ hc)

/-! ## Flat objects -/

/-- The lower case hexadecimal digit of a number below 16. -/
def hexDigit (n : Nat) : Char := if n < 10 then Char.ofNat (48 + n) else Char.ofNat (87 + n)

/-- The number that a hexadecimal digit stands for. -/
def hexValue (c : Char) : Nat := if c.isDigit then c.toNat - 48 else c.toNat - 87

/-- A character between quotes. -/
def escape (c : Char) : List Char :=
  if c = '"' ∨ c = '\\' then ['\\', c]
  else if c.toNat < 32 then ['\\', 'u', '0', '0', hexDigit (c.toNat / 16), hexDigit (c.toNat % 16)]
  else [c]

/-- A text between quotation marks, with its special characters escaped. -/
def quote (s : List Char) : List Char := '"' :: (s.flatMap escape ++ ['"'])

/-- The character that an escape of one letter stands for. -/
def unescape : Char → Char
  | 'b' => '\x08'
  | 'f' => '\x0c'
  | 'n' => '\n'
  | 'r' => '\r'
  | 't' => '\t'
  | c => c

/-- The string up to the closing quote, and the text after it. -/
def readString (text : List Char) : Option (List Char × List Char) :=
  match text with
  | [] => none
  | c :: rest =>
    if c = '"' then some ([], rest)
    else if c = '\\' then
      match rest with
      | [] => none
      | e :: rest =>
        if e = 'u' then
          match rest with
          | _ :: _ :: h :: l :: rest =>
            (readString rest).map fun x => (Char.ofNat (16 * hexValue h + hexValue l) :: x.1, x.2)
          | _ => none
        else (readString rest).map fun x => (unescape e :: x.1, x.2)
    else (readString rest).map fun x => (c :: x.1, x.2)
termination_by structural text

/-- The text of an item. -/
def printItem : Item → List Char
  | .number value => numeral value
  | .string value => quote value
  | .other => "null".toList

/-- Whether a character may stand in a number. -/
def isNumberChar (c : Char) : Bool := c.isDigit || c == '-'

/-- Reads one item off the front of a text. -/
def readItem : List Char → Option (Item × List Char)
  | [] => none
  | c :: rest =>
    if c = '"' then (readString rest).map fun x => (.string x.1, x.2)
    else
      let digits := (c :: rest).takeWhile isNumberChar
      if IsNumeral digits then some (.number (readInt digits), (c :: rest).dropWhile isNumberChar)
      else none

/-- A member is its quoted name, a colon and its item. -/
def printMember (m : List Char × Item) : List Char := quote m.1 ++ ':' :: printItem m.2

/-- Members with commas between them, and the closing brace. -/
def printMembers : Members → List Char
  | [] => ['}']
  | [m] => printMember m ++ ['}']
  | m :: rest => printMember m ++ ',' :: printMembers rest

/-- Reads one member off the front of a text. -/
def readMember : List Char → Option ((List Char × Item) × List Char)
  | '"' :: rest =>
    match readString rest with
    | some (name, ':' :: rest) => (readItem rest).map fun x => ((name, x.1), x.2)
    | _ => none
  | _ => none

/-- Read members up to the end of the text; each takes one unit of fuel. -/
def readMembers : Nat → List Char → Option Members
  | 0, _ => none
  | fuel + 1, text =>
    match readMember text with
    | some (m, ['}']) => some [m]
    | some (m, ',' :: rest) => (readMembers fuel rest).map (m :: ·)
    | _ => none

/-- Objects whose members are strings and whole numbers. -/
def flatJson : Json where
  print members := '{' :: printMembers members
  parse
    | '{' :: rest => if rest = ['}'] then some [] else readMembers rest.length rest
    | _ => none

theorem hexValue_hexDigit {n : Nat} (h : n < 16) : hexValue (hexDigit n) = n := by
  have hall : ∀ n < 16, hexValue (hexDigit n) = n := by decide
  exact hall n h

/-- A character is read back from between quotes. -/
theorem readString_escape (c : Char) (rest : List Char) :
    readString (escape c ++ rest) = (readString rest).map fun x => (c :: x.1, x.2) := by
  by_cases hquote : c = '"' ∨ c = '\\'
  · rw [escape, if_pos hquote, List.cons_append, List.singleton_append, readString.eq_def]
    rcases hquote with rfl | rfl
    · simp [unescape]
    · simp [unescape]
  · obtain ⟨hq, hb⟩ := not_or.mp hquote
    rw [escape, if_neg hquote]
    by_cases hcontrol : c.toNat < 32
    · have hvalue : 16 * hexValue (hexDigit (c.toNat / 16)) + hexValue (hexDigit (c.toNat % 16)) =
          c.toNat := by
        rw [hexValue_hexDigit (by omega), hexValue_hexDigit (by omega)]
        omega
      rw [if_pos hcontrol, readString.eq_def]
      simp [hvalue]
    · rw [if_neg hcontrol, List.singleton_append, readString.eq_def]
      simp [hq, hb]

/-- A quoted string is read up to its closing quote. -/
theorem readString_flatMap_escape (s rest : List Char) :
    readString (s.flatMap escape ++ '"' :: rest) = some (s, rest) := by
  induction s with
  | nil => rw [List.flatMap_nil, List.nil_append, readString.eq_def]; simp
  | cons c s ih =>
    rw [List.flatMap_cons, List.append_assoc, readString_escape, ih]
    rfl

theorem isNumberChar_of_mem_numeral {n : Int} {c : Char} (h : c ∈ numeral n) :
    isNumberChar c = true := by
  by_contra hnot
  rw [isNumberChar, Bool.or_eq_true, not_or, Bool.not_eq_true, beq_iff_eq] at hnot
  exact not_mem_numeral hnot.1 hnot.2 n h

/-- An item is read back up to the character that ends it. -/
theorem readItem_printItem {item : Item} (h : item.IsPlain) {c : Char}
    (hc : isNumberChar c = false) (rest : List Char) :
    readItem (printItem item ++ c :: rest) = some (item, c :: rest) := by
  cases item with
  | number value =>
    have hchars : ∀ d ∈ numeral value, isNumberChar d = true :=
      fun d hd => isNumberChar_of_mem_numeral hd
    have htake : (numeral value ++ c :: rest).takeWhile isNumberChar = numeral value := by
      rw [List.takeWhile_append_of_pos hchars, List.takeWhile_cons_of_neg (by simp [hc]),
        List.append_nil]
    have hdrop : (numeral value ++ c :: rest).dropWhile isNumberChar = c :: rest := by
      rw [List.dropWhile_append_of_pos hchars, List.dropWhile_cons_of_neg (by simp [hc])]
    obtain ⟨d, l, hd⟩ := List.exists_cons_of_ne_nil (numeral_ne_nil value)
    have hquote : d ≠ '"' := by
      rintro rfl
      have := hchars _ (hd ▸ List.mem_cons_self)
      revert this
      decide
    rw [printItem]
    rw [hd, List.cons_append] at htake hdrop ⊢
    rw [readItem, if_neg hquote]
    simp only [htake, hdrop, ← hd, readInt_numeral, isNumeral_numeral, if_true]
  | string value =>
    rw [printItem, quote, List.cons_append, List.append_assoc, readItem, if_pos rfl]
    rw [List.singleton_append, readString_flatMap_escape]
    rfl
  | other => exact h.elim

/-- A member is read back, whatever follows that is no part of a number. -/
theorem readMember_printMember {m : List Char × Item} (h : m.2.IsPlain) {c : Char}
    (hc : isNumberChar c = false) (rest : List Char) :
    readMember (printMember m ++ c :: rest) = some (m, c :: rest) := by
  rw [printMember, quote, List.cons_append, List.cons_append, List.append_assoc,
    List.append_assoc, readMember, List.singleton_append, List.cons_append,
    readString_flatMap_escape]
  simp only [readItem_printItem h hc, Option.map_some]

/-- Members are read back with enough fuel. -/
theorem readMembers_printMembers {m : List Char × Item} {members : Members}
    (h : ∀ x ∈ m :: members, x.2.IsPlain) {fuel : Nat} (hfuel : members.length < fuel) :
    readMembers fuel (printMembers (m :: members)) = some (m :: members) := by
  induction members generalizing m fuel with
  | nil =>
    obtain ⟨fuel, rfl⟩ : ∃ k, fuel = k + 1 := ⟨fuel - 1, by omega⟩
    rw [printMembers, readMembers, readMember_printMember (h m List.mem_cons_self) (by decide)]
    rfl
  | cons n members ih =>
    obtain ⟨fuel, rfl⟩ : ∃ k, fuel = k + 1 := ⟨fuel - 1, by omega⟩
    rw [printMembers, readMembers, readMember_printMember (h m List.mem_cons_self) (by decide)]
    · simp only [ih (fun x hx => h x (List.mem_cons_of_mem _ hx)) (Nat.lt_of_succ_lt_succ hfuel),
        Option.map_some]
    · exact List.cons_ne_nil _ _

/-- Each member is printed, so a text is at least as long as its members are many. -/
theorem length_lt_length_printMembers (members : Members) :
    members.length < (printMembers members).length := by
  induction members with
  | nil => exact Nat.one_pos
  | cons m rest ih =>
    cases rest with
    | nil =>
      rw [printMembers, printMember, quote]
      simp only [List.length_append, List.length_cons]
      omega
    | cons n rest =>
      have hprint : printMembers (m :: n :: rest) =
          printMember m ++ ',' :: printMembers (n :: rest) := rfl
      rw [hprint]
      simp only [List.length_append, List.length_cons] at ih ⊢
      omega

/-- The printer and the parser of flat objects are inverse. -/
theorem flatJson_isFaithful : flatJson.IsFaithful := by
  intro members h
  cases members with
  | nil => rfl
  | cons m members =>
    have hlength := length_lt_length_printMembers (m :: members)
    have hne : printMembers (m :: members) ≠ ['}'] := by
      intro heq
      rw [heq] at hlength
      exact absurd hlength (by simp)
    change (if printMembers (m :: members) = ['}'] then _ else _) = _
    rw [if_neg hne]
    exact readMembers_printMembers (fun x hx => (h x hx).2) (Nat.lt_of_succ_lt hlength)

end Library
