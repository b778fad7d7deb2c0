import Mathlib.Data.List.Basic

set_option autoImplicit false

/- JSON texts without white space between their tokens: how a document is written, for any way to
escape the bytes of its strings, and a reader. A text is read back as the document it was written
for when each escaped byte is read back as the byte. -/
namespace TrafficFabric

namespace Json

inductive Document
  | string (bytes : List UInt8)
  | number (value : Int)
  | boolean (value : Bool)
  | array (items : List Document)
  | object (members : List (List UInt8 × Document))

/-! Writing. -/

def quoted (escape : UInt8 → List UInt8) (bytes : List UInt8) : List UInt8 :=
  34 :: (bytes.flatMap escape ++ [34])

def natural (value : Nat) : List UInt8 := (Nat.toDigits 10 value).map fun char => char.toNat.toUInt8

def numeral : Int → List UInt8
  | .ofNat value => natural value
  | .negSucc value => 45 :: natural (value + 1)

/-- The comma in front of all elements but the first. -/
def separator (first : Bool) : List UInt8 := if first then [] else [44]

mutual

def write (escape : UInt8 → List UInt8) : Document → List UInt8
  | .string bytes => quoted escape bytes
  | .number value => numeral value
  | .boolean true => [116, 114, 117, 101]
  | .boolean false => [102, 97, 108, 115, 101]
  | .array items => 91 :: (writeItems escape true items ++ [93])
  | .object members => 123 :: (writeMembers escape true members ++ [125])

def writeItems (escape : UInt8 → List UInt8) : Bool → List Document → List UInt8
  | _, [] => []
  | first, item :: items => separator first ++ (write escape item ++ writeItems escape false items)

def writeMembers (escape : UInt8 → List UInt8) : Bool → List (List UInt8 × Document) → List UInt8
  | _, [] => []
  | first, (key, value) :: members =>
      separator first ++
        (quoted escape key ++ 58 :: (write escape value ++ writeMembers escape false members))

end

/-! Reading. -/

/-- Where the reader of a string is: between bytes, behind a backslash, or in the four digits of a
code point. -/
inductive Scan
  | plain
  | escape
  | point (left value : Nat)

def hexDigit (byte : UInt8) : Option Nat :=
  if 48 ≤ byte ∧ byte ≤ 57 then some (byte.toNat - 48)
  else if 97 ≤ byte ∧ byte ≤ 102 then some (byte.toNat - 87)
  else if 65 ≤ byte ∧ byte ≤ 70 then some (byte.toNat - 55)
  else none

/-- The byte that a letter behind a backslash stands for. -/
def unescaped (byte : UInt8) : Option UInt8 :=
  if byte = 34 ∨ byte = 92 ∨ byte = 47 then some byte
  else if byte = 98 then some 8
  else if byte = 102 then some 12
  else if byte = 110 then some 10
  else if byte = 114 then some 13
  else if byte = 116 then some 9
  else none

def push (byte : UInt8) (read : List UInt8 × List UInt8) :
    List UInt8 × List UInt8 := (byte :: read.1, read.2)

/-- The rest of a string, up to its closing quote. A code point is taken where it is one byte. -/
def scan : Scan → List UInt8 → Option (List UInt8 × List UInt8)
  | _, [] => none
  | .plain, byte :: rest =>
      if byte = 34 then some ([], rest)
      else if byte = 92 then scan .escape rest
      else if byte < 32 then none
      else (scan .plain rest).map (push byte)
  | .escape, byte :: rest =>
      if byte = 117 then scan (.point 4 0) rest
      else
        match unescaped byte with
        | none => none
        | some plain => (scan .plain rest).map (push plain)
  | .point left value, byte :: rest =>
      match hexDigit byte with
      | none => none
      | some digit =>
          if 1 < left then scan (.point (left - 1) (16 * value + digit)) rest
          else if 16 * value + digit < 128 then (scan .plain rest).map (push (16 * value + digit).toUInt8)
          else none

def digit (byte : UInt8) : Option Nat := if 48 ≤ byte ∧ byte ≤ 57 then some (byte.toNat - 48) else none

def takeDigits (value : Nat) : List UInt8 → Nat × List UInt8
  | [] => (value, [])
  | byte :: rest =>
      match digit byte with
      | none => (value, byte :: rest)
      | some next => takeDigits (10 * value + next) rest

/-- A run of digits, which starts with a zero only when it is that zero. -/
def readNatural : List UInt8 → Option (Nat × List UInt8)
  | [] => none
  | byte :: rest =>
      match digit byte with
      | none => none
      | some 0 => if (rest.head?.bind digit).isSome then none else some (0, rest)
      | some first => some (takeDigits first rest)

def readNumber : List UInt8 → Option (Int × List UInt8)
  | [] => none
  | byte :: rest =>
      if byte = 45 then (readNatural rest).map fun read => (-(read.1 : Int), read.2)
      else (readNatural (byte :: rest)).map fun read => ((read.1 : Int), read.2)

/-- The word at the front of the bytes, read as the document. -/
def literal (word : List UInt8) (document : Document) (bytes : List UInt8) :
    Option (Document × List UInt8) :=
  if word <+: bytes then some (document, bytes.drop word.length) else none

mutual

/-- A document at the front of the bytes, and what follows it. -/
def readValue : Nat → List UInt8 → Option (Document × List UInt8)
  | fuel + 1, byte :: rest =>
      if byte = 34 then (scan .plain rest).map fun read => (.string read.1, read.2)
      else if byte = 116 then literal [114, 117, 101] (.boolean true) rest
      else if byte = 102 then literal [97, 108, 115, 101] (.boolean false) rest
      else if byte = 91 then
        if rest.head? = some 93 then some (.array [], rest.tail)
        else (readItems fuel rest).map fun read => (.array read.1, read.2)
      else if byte = 123 then
        if rest.head? = some 125 then some (.object [], rest.tail)
        else (readMembers fuel rest).map fun read => (.object read.1, read.2)
      else (readNumber (byte :: rest)).map fun read => (.number read.1, read.2)
  | _, _ => none

/-- The items of an array, up to its closing bracket. -/
def readItems : Nat → List UInt8 → Option (List Document × List UInt8)
  | fuel + 1, bytes =>
      match readValue fuel bytes with
      | some (item, byte :: rest) =>
          if byte = 93 then some ([item], rest)
          else if byte = 44 then (readItems fuel rest).map fun read => (item :: read.1, read.2)
          else none
      | _ => none
  | _, _ => none

/-- The members of an object, up to its closing brace. -/
def readMembers : Nat → List UInt8 → Option (List (List UInt8 × Document) × List UInt8)
  | fuel + 1, byte :: bytes =>
      if byte = 34 then
        match scan .plain bytes with
        | some (key, colon :: rest) =>
            if colon = 58 then
              match readValue fuel rest with
              | some (value, byte :: rest) =>
                  if byte = 125 then some ([(key, value)], rest)
                  else if byte = 44 then
                    (readMembers fuel rest).map fun read => ((key, value) :: read.1, read.2)
                  else none
              | _ => none
            else none
        | _ => none
      else none
  | _, _ => none

end

/-- The document of a whole text. -/
def read (bytes : List UInt8) : Option Document :=
  match readValue (bytes.length + 1) bytes with
  | some (document, []) => some document
  | _ => none

/-! What was written is read. -/

section Strings

/-- Every escaped byte is read as that byte. -/
def Legal (escape : UInt8 → List UInt8) : Prop :=
  ∀ byte rest, scan .plain (escape byte ++ rest) = (scan .plain rest).map (push byte)

theorem scan_escaped {escape : UInt8 → List UInt8} (legal : Legal escape) (bytes rest : List UInt8) :
    scan .plain (bytes.flatMap escape ++ 34 :: rest) = some (bytes, rest) := by
  induction bytes with
  | nil => rfl
  | cons byte bytes ih =>
      rw [List.flatMap_cons, List.append_assoc, legal, ih]
      rfl

end Strings

section Numbers

/-- The number does not go on. -/
def Ended (rest : List UInt8) : Prop := rest.head?.bind digit = none

theorem digit_code {char : Char} (isDigit : char.isDigit = true) :
    digit char.toNat.toUInt8 = some (char.toNat - 48) := by
  obtain ⟨low, high⟩ : 48 ≤ char.toNat ∧ char.toNat ≤ 57 := by
    simpa [Char.isDigit, UInt32.le_iff_toNat_le] using isDigit
  have code : char.toNat.toUInt8.toNat = char.toNat := by
    rw [Nat.toUInt8_eq, UInt8.toNat_ofNat']
    omega
  unfold digit
  rw [if_pos, code]
  simp only [UInt8.le_iff_toNat_le, code]
  exact ⟨low, high⟩

theorem takeDigits_codes {chars : List Char} (digits : ∀ char ∈ chars, char.isDigit = true) (value : Nat)
    {rest : List UInt8} (ended : Ended rest) :
    takeDigits value (chars.map (fun char => char.toNat.toUInt8) ++ rest) =
      (Nat.ofDigitChars 10 chars value, rest) := by
  induction chars generalizing value with
  | nil =>
      rw [Nat.ofDigitChars_nil]
      cases rest with
      | nil => rfl
      | cons byte rest =>
          have none : digit byte = none := ended
          rw [List.map_nil, List.nil_append, takeDigits, none]
  | cons char chars ih =>
      have head := digit_code (digits char List.mem_cons_self)
      rw [List.map_cons, List.cons_append, takeDigits, head, Nat.ofDigitChars_cons]
      exact ih (fun other member => digits other (List.mem_cons_of_mem _ member)) _

/-- A positive number does not start with a zero. -/
theorem toDigits_head (value : Nat) (positive : 0 < value) :
    ∃ first chars, Nat.toDigits 10 value = Nat.digitChar first :: chars ∧ 0 < first ∧ first < 10 := by
  induction value using Nat.strongRecOn with
  | ind value ih =>
      by_cases small : value < 10
      · exact ⟨value, [], Nat.toDigits_of_lt_base small, positive, small⟩
      · obtain ⟨first, chars, same, low, high⟩ := ih (value / 10) (by omega) (by omega)
        refine ⟨first, chars ++ [Nat.digitChar (value % 10)], ?_, low, high⟩
        rw [Nat.toDigits_of_base_le (by decide) (by omega), same, List.cons_append]

theorem readNatural_natural (value : Nat) {rest : List UInt8} (ended : Ended rest) :
    readNatural (natural value ++ rest) = some (value, rest) := by
  unfold natural
  cases value with
  | zero =>
      have none : ¬ (rest.head?.bind digit).isSome := by
        rw [ended]
        exact Bool.false_ne_true
      have head : digit '0'.toNat.toUInt8 = some 0 := rfl
      rw [Nat.toDigits_zero, List.map_singleton, List.singleton_append, readNatural, head]
      exact if_neg none
  | succ value =>
      obtain ⟨first, chars, same, low, high⟩ := toDigits_head (value + 1) (Nat.succ_pos value)
      have whole := @Nat.ofDigitChars_ten_toDigits (value + 1)
      have digits : ∀ char ∈ Nat.toDigits 10 (value + 1), char.isDigit = true := fun _ member =>
        Nat.isDigit_of_mem_toDigits (by decide) (by decide) member
      rw [same] at whole digits ⊢
      rw [Nat.ofDigitChars_cons_digitChar_of_lt_ten high, Nat.mul_zero, Nat.zero_add] at whole
      have head := digit_code (digits _ List.mem_cons_self)
      rw [show (Nat.digitChar first).toNat - 48 =
        first from Nat.toNat_digitChar_sub_48_of_lt_ten high] at head
      obtain ⟨previous, rfl⟩ : ∃ previous, first = previous + 1 := ⟨first - 1, by omega⟩
      rw [List.map_cons, List.cons_append, readNatural, head]
      show some (takeDigits (previous + 1) _) = _
      rw [takeDigits_codes
        (fun other member => digits other (List.mem_cons_of_mem _ member)) _ ended, whole]

/-- A written number starts with a digit, or with a sign. -/
theorem natural_head (value : Nat) :
    ∃ byte rest, natural value = byte :: rest ∧ 48 ≤ byte.toNat ∧ byte.toNat ≤ 57 := by
  unfold natural
  cases found : Nat.toDigits 10 value with
  | nil => exact absurd found Nat.toDigits_ne_nil
  | cons char chars =>
      have isDigit : char.isDigit = true := by
        have member : char ∈ Nat.toDigits 10 value := by
          rw [found]
          exact List.mem_cons_self
        exact Nat.isDigit_of_mem_toDigits (by decide) (by decide) member
      obtain ⟨low, high⟩ : 48 ≤ char.toNat ∧ char.toNat ≤ 57 := by
        simpa [Char.isDigit, UInt32.le_iff_toNat_le] using isDigit
      refine ⟨_, _, rfl, ?_⟩
      dsimp only
      rw [Nat.toUInt8_eq, UInt8.toNat_ofNat']
      omega

theorem readNumber_numeral (value : Int) {rest : List UInt8} (ended : Ended rest) :
    readNumber (numeral value ++ rest) = some (value, rest) := by
  cases value with
  | ofNat value =>
      obtain ⟨byte, more, same, low, -⟩ := natural_head value
      have unsigned : byte ≠ 45 := by
        rintro rfl
        exact absurd low (by decide)
      have found := readNatural_natural value ended
      rw [same, List.cons_append] at found
      have written : numeral (.ofNat value) = byte :: more := same
      rw [written, List.cons_append, readNumber, if_neg unsigned, found]
      rfl
  | negSucc value =>
      unfold numeral
      rw [List.cons_append, readNumber, if_pos rfl, readNatural_natural (value + 1) ended]
      rfl

end Numbers

section Documents

variable {escape : UInt8 → List UInt8}

/-- The first byte of a document tells its kind apart. -/
theorem write_head (document : Document) :
    ∃ byte rest, write escape document = byte :: rest ∧ byte ≠ 93 ∧ byte ≠ 125 := by
  cases document with
  | string bytes => exact ⟨34, _, by rw [write, quoted], by decide, by decide⟩
  | number value =>
      have sign : ∀ value : Nat, ∃ byte rest, natural value = byte :: rest ∧ byte ≠ 93 ∧ byte ≠ 125 := by
        intro value
        obtain ⟨byte, rest, same, -, high⟩ := natural_head value
        refine ⟨byte, rest, same, ?_, ?_⟩
        · rintro rfl
          exact absurd high (by decide)
        · rintro rfl
          exact absurd high (by decide)
      rw [write]
      cases value with
      | ofNat value => exact sign value
      | negSucc value => exact ⟨45, natural (value + 1), rfl, by decide, by decide⟩
  | boolean value =>
      cases value with
      | false => exact ⟨102, _, by rw [write], by decide, by decide⟩
      | true => exact ⟨116, _, by rw [write], by decide, by decide⟩
  | array items => exact ⟨91, _, by rw [write], by decide, by decide⟩
  | object members => exact ⟨123, _, by rw [write], by decide, by decide⟩

theorem ended_cons {byte : UInt8} (other : digit byte = none) (rest : List UInt8) :
    Ended (byte :: rest) := other

/-- What the reader does with so much fuel. -/
structure Reads (escape : UInt8 → List UInt8) (fuel : Nat) : Prop where
  value : ∀ document rest, (write escape document).length ≤ fuel → Ended rest →
    readValue fuel (write escape document ++ rest) = some (document, rest)
  items : ∀ item items rest, (writeItems escape true (item :: items)).length < fuel →
    readItems fuel (writeItems escape true (item :: items) ++ 93 :: rest) = some (item :: items, rest)
  members : ∀ member members rest, (writeMembers escape true (member :: members)).length < fuel →
    readMembers fuel (writeMembers escape true (member :: members) ++ 125 :: rest) =
      some (member :: members, rest)

theorem write_ne_nil (document : Document) : 0 < (write escape document).length := by
  obtain ⟨byte, rest, same, -⟩ := @write_head escape document
  rw [same]
  exact Nat.succ_pos _

theorem reads_items {fuel : Nat} (reads : Reads escape fuel) (item : Document) (items : List Document)
    (rest : List UInt8) (short : (writeItems escape true (item :: items)).length ≤ fuel) :
    readItems (fuel + 1) (writeItems escape true (item :: items) ++ 93 :: rest) =
      some (item :: items, rest) := by
  rw [writeItems, show separator true = [] from rfl, List.nil_append] at short ⊢
  rw [List.length_append] at short
  cases items with
  | nil =>
      rw [writeItems, List.append_nil, readItems,
        reads.value item (93 :: rest) (by omega) (ended_cons rfl rest)]
      rfl
  | cons next items =>
      have more : writeItems escape false (next :: items) = 44 :: writeItems escape true
          (next :: items) := by
        rw [writeItems, writeItems]
        rfl
      have present := @write_ne_nil escape item
      rw [more, List.length_cons] at short
      rw [more, List.append_assoc, List.cons_append, readItems,
        reads.value item _ (by omega) (ended_cons rfl _)]
      show (readItems fuel _).map _ = _
      rw [reads.items next items rest (by omega)]
      rfl

theorem reads_members (legal : Legal escape) {fuel : Nat} (reads : Reads escape fuel)
    (member : List UInt8 × Document) (members : List (List UInt8 × Document)) (rest : List UInt8)
    (short : (writeMembers escape true (member :: members)).length ≤ fuel) :
    readMembers (fuel + 1) (writeMembers escape true (member :: members) ++ 125 :: rest) =
      some (member :: members, rest) := by
  obtain ⟨key, value⟩ := member
  rw [writeMembers, show separator true = [] from rfl, List.nil_append, quoted] at short ⊢
  simp only [List.length_append, List.length_cons, List.length_nil] at short
  simp only [List.cons_append, List.append_assoc, List.nil_append]
  rw [readMembers, if_pos rfl, scan_escaped legal]
  dsimp only
  rw [if_pos rfl]
  cases members with
  | nil =>
      rw [writeMembers, List.nil_append, reads.value value _ (by omega) (ended_cons rfl rest)]
      rfl
  | cons next members =>
      have more : writeMembers escape false (next :: members) =
          44 :: writeMembers escape true (next :: members) := by
        obtain ⟨name, second⟩ := next
        rw [writeMembers, writeMembers]
        rfl
      rw [more, List.length_cons] at short
      rw [more, List.cons_append, reads.value value _ (by omega) (ended_cons rfl _)]
      show (readMembers fuel _).map _ = _
      rw [reads.members next members rest (by omega)]
      rfl

theorem reads_value (legal : Legal escape) {fuel : Nat} (reads : Reads escape fuel) (document : Document)
    (rest : List UInt8) (short : (write escape document).length ≤ fuel + 1) (ended : Ended rest) :
    readValue (fuel + 1) (write escape document ++ rest) = some (document, rest) := by
  cases document with
  | string bytes =>
      rw [write, quoted, List.cons_append, List.append_assoc, readValue, if_pos rfl]
      rw [show [34] ++ rest = 34 :: rest from rfl, scan_escaped legal]
      rfl
  | number value =>
      have found := readNumber_numeral value ended
      have head : ∃ byte more, numeral value = byte :: more ∧
          (byte = 45 ∨ 48 ≤ byte.toNat ∧ byte.toNat ≤ 57) := by
        cases value with
        | ofNat value =>
            obtain ⟨byte, more, same, range⟩ := natural_head value
            exact ⟨byte, more, same, Or.inr range⟩
        | negSucc value => exact ⟨45, _, rfl, Or.inl rfl⟩
      obtain ⟨byte, more, same, kind⟩ := head
      have other : ∀ token : UInt8, token ≠ 45 → (token.toNat < 48 ∨ 57 < token.toNat) →
          byte ≠ token := by
        rintro token sign outside rfl
        rcases kind with minus | range
        · exact sign minus
        · omega
      rw [same, List.cons_append] at found
      rw [write, same, List.cons_append, readValue, if_neg (other 34 (by decide) (by decide)),
        if_neg (other 116 (by decide) (by decide)), if_neg (other 102 (by decide) (by decide)),
        if_neg (other 91 (by decide) (by decide)), if_neg (other 123 (by decide) (by decide)), found]
      rfl
  | boolean value =>
      cases value with
      | false =>
          rw [write, List.cons_append, readValue, if_neg (by decide), if_neg (by decide), if_pos rfl]
          exact if_pos (List.prefix_append _ _)
      | true =>
          rw [write, List.cons_append, readValue, if_neg (by decide), if_pos rfl]
          exact if_pos (List.prefix_append _ _)
  | array items =>
      rw [write, List.cons_append, readValue, if_neg (by decide), if_neg (by decide), if_neg (by decide),
        if_pos rfl]
      cases items with
      | nil => rfl
      | cons item items =>
          rw [write, List.length_cons, List.length_append, List.length_singleton] at short
          obtain ⟨byte, more, same, other, -⟩ := @write_head escape item
          rw [if_neg, List.append_assoc, show [93] ++ rest = 93 :: rest from rfl,
            reads.items item items rest (by omega)]
          · rfl
          · rw [writeItems, same]
            exact fun closing => other (Option.some.inj closing)
  | object members =>
      rw [write, List.cons_append, readValue, if_neg (by decide), if_neg (by decide), if_neg (by decide),
        if_neg (by decide), if_pos rfl]
      cases members with
      | nil => rfl
      | cons member members =>
          obtain ⟨key, value⟩ := member
          rw [write, List.length_cons, List.length_append, List.length_singleton] at short
          rw [if_neg, List.append_assoc, show [125] ++ rest = 125 :: rest from rfl,
            reads.members (key, value) members rest (by omega)]
          · rfl
          · rw [writeMembers, quoted]
            exact fun closing => absurd (Option.some.inj closing) (by decide)

theorem reads (legal : Legal escape) (fuel : Nat) : Reads escape fuel := by
  induction fuel with
  | zero =>
      refine ⟨?_, ?_, ?_⟩
      · intro document rest short
        exact absurd (@write_ne_nil escape document) (by omega)
      · intro item items rest short
        exact absurd short (Nat.not_lt_zero _)
      · intro member members rest short
        exact absurd short (Nat.not_lt_zero _)
  | succ fuel ih =>
      exact ⟨reads_value legal ih, fun item items rest short => reads_items ih item items rest (by omega),
        fun member members rest short => reads_members legal ih member members rest (by omega)⟩

/-- A written document is a text, and the text of no other document. -/
theorem read_write (legal : Legal escape) (document : Document) :
    read (write escape document) = some document := by
  have found := (reads legal ((write escape document).length + 1)).value document [] (Nat.le_succ _) rfl
  rw [List.append_nil] at found
  unfold read
  rw [found]

end Documents

end Json

end TrafficFabric
