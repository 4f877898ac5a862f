import Terracotta.Json
import Terracotta.Text
/-!
# JSON text, as `serde_json` writes and reads it

The compact text of a value: strings escaped as `serde_json` escapes them, the members of an object in the order of
their keys (its `Map` is a `BTreeMap`).  The digits of a double are a parameter.  And the reading of a record from a
value: by name from an object, by position from an array.  Nothing here names a particular record.
-/
namespace Text

/-- The UTF-8 bytes of a text. -/
def utf8 (s : List Char) : List UInt8 := s.flatMap String.utf8EncodeChar

theorem length_utf8 (s : List Char) : (utf8 s).length = utf8Len s := by
  simp [utf8, utf8Len, List.length_flatMap]

@[simp] theorem utf8Len_nil : utf8Len [] = 0 := rfl

@[simp] theorem utf8Len_cons (c : Char) (s : List Char) : utf8Len (c :: s) = c.utf8Size + utf8Len s := by
  simp [utf8Len]

@[simp] theorem utf8Len_append (s t : List Char) : utf8Len (s ++ t) = utf8Len s + utf8Len t := by
  simp [utf8Len]

end Text

namespace Json

/-! ## Writing -/

def hexDigit (n : Nat) : Char := if n < 10 then Char.ofNat (48 + n) else Char.ofNat (87 + n)

/-- One character of a string. -/
def escapeChar (c : Char) : List Char :=
  if c = '"' then ['\\', '"']
  else if c = '\\' then ['\\', '\\']
  else if c.toNat = 8 then ['\\', 'b']
  else if c.toNat = 9 then ['\\', 't']
  else if c.toNat = 10 then ['\\', 'n']
  else if c.toNat = 12 then ['\\', 'f']
  else if c.toNat = 13 then ['\\', 'r']
  else if c.toNat < 0x20 then ['\\', 'u', '0', '0', hexDigit (c.toNat / 16), hexDigit (c.toNat % 16)]
  else [c]

def escape (s : List Char) : List Char := s.flatMap escapeChar

def writeStr (s : String) : List Char := '"' :: escape s.toList ++ ['"']

/-- `Map::insert` on members in the order of their keys; of two members with one key the later stays. -/
def insertMember (key : String) (value : Value) : List (String × Value) → List (String × Value)
  | [] => [(key, value)]
  | (k, v) :: members =>
    if key < k then (key, value) :: (k, v) :: members
    else if key = k then (k, v) :: members
    else (k, v) :: insertMember key value members

mutual

/-- A value with the members of its objects in the order of their keys. -/
def sortKeys : Value → Value
  | .arr items => .arr (sortItems items)
  | .obj members => .obj (sortMembers members)
  | v => v

def sortItems : List Value → List Value
  | [] => []
  | v :: items => sortKeys v :: sortItems items

def sortMembers : List (String × Value) → List (String × Value)
  | [] => []
  | (k, v) :: members => insertMember k (sortKeys v) (sortMembers members)

end

section Write

variable (printReal : F64 → List Char)

mutual

/-- The compact text of a value. -/
def write : Value → List Char
  | .null => "null".toList
  | .bool b => if b then "true".toList else "false".toList
  | .int n => (toString n).toList
  | .real x => printReal x
  | .str s => writeStr s
  | .arr items => '[' :: writeItems items ++ [']']
  | .obj members => '\x7b' :: writeMembers members ++ ['\x7d']

def writeItems : List Value → List Char
  | [] => []
  | [v] => write v
  | v :: w :: items => write v ++ ',' :: writeItems (w :: items)

def writeMembers : List (String × Value) → List Char
  | [] => []
  | [(k, v)] => writeStr k ++ ':' :: write v
  | (k, v) :: m :: members => writeStr k ++ ':' :: write v ++ ',' :: writeMembers (m :: members)

end

end Write

/-- The bytes of a character in a string. -/
def escapedLen (s : List Char) : Nat := Text.utf8Len (escape s)

theorem utf8Len_writeStr (s : String) : Text.utf8Len (writeStr s) = escapedLen s.toList + 2 := by
  have hquote : Char.utf8Size '"' = 1 := by decide
  simp only [writeStr, List.cons_append, Text.utf8Len_cons, Text.utf8Len_append, Text.utf8Len_nil, escapedLen, hquote]
  omega

theorem escapedLen_cons (c : Char) (s : List Char) :
    escapedLen (c :: s) = Text.utf8Len (escapeChar c) + escapedLen s := by
  simp [escapedLen, escape]

/-- **A printable ASCII character takes at most two bytes.** -/
theorem escapeChar_printable {c : Char} (h : 0x20 ≤ c.toNat ∧ c.toNat ≤ 0x7e) : Text.utf8Len (escapeChar c) ≤ 2 := by
  have hsize : c.utf8Size = 1 := by
    have hle : c.val.toNat ≤ 0x7f := Nat.le_trans h.2 (by decide)
    unfold Char.utf8Size
    simp only [UInt32.le_iff_toNat_le, UInt32.toNat_ofNatLT]
    rw [if_pos hle]
  unfold escapeChar
  split
  · decide
  split
  · decide
  iterate 6
    rw [if_neg (by omega)]
  simp [hsize]

theorem escapedLen_printable : ∀ {s : List Char}, (∀ c ∈ s, 0x20 ≤ c.toNat ∧ c.toNat ≤ 0x7e) →
    escapedLen s ≤ 2 * s.length
  | [], _ => Nat.zero_le _
  | c :: s, h => by
    have hc := escapeChar_printable (h c List.mem_cons_self)
    have ih := escapedLen_printable (fun x hx => h x (List.mem_cons_of_mem _ hx))
    rw [escapedLen_cons, List.length_cons]
    omega

/-! ## The size of an object -/

section Size

variable (printReal : F64 → List Char)

theorem utf8Len_writeMembers (k : String) (v : Value) : ∀ members : List (String × Value),
    Text.utf8Len (writeMembers printReal ((k, v) :: members)) =
      Text.utf8Len (writeStr k) + 1 + Text.utf8Len (write printReal v) +
        (if members = [] then 0 else 1 + Text.utf8Len (writeMembers printReal members))
  | [] => by
    have hcolon : Char.utf8Size ':' = 1 := by decide
    show Text.utf8Len (writeStr k ++ ':' :: write printReal v) = _
    rw [Text.utf8Len_append, Text.utf8Len_cons, hcolon, if_pos rfl]
    omega
  | m :: members => by
    have hcolon : Char.utf8Size ':' = 1 := by decide
    have hcomma : Char.utf8Size ',' = 1 := by decide
    show Text.utf8Len (writeStr k ++ ':' :: write printReal v ++ ',' :: writeMembers printReal (m :: members)) = _
    rw [Text.utf8Len_append, Text.utf8Len_append, Text.utf8Len_cons, Text.utf8Len_cons, hcolon, hcomma,
      if_neg (List.cons_ne_nil _ _)]
    omega

theorem insertMember_ne_nil (key : String) (value : Value) : ∀ members : List (String × Value),
    insertMember key value members ≠ []
  | [] => List.cons_ne_nil _ _
  | (k, v) :: members => by
    unfold insertMember
    split
    · exact List.cons_ne_nil _ _
    · split <;> exact List.cons_ne_nil _ _

/-- **A member more makes no object shorter.** -/
theorem utf8Len_insertMember (key : String) (value : Value) : ∀ members : List (String × Value),
    Text.utf8Len (writeMembers printReal members) ≤
      Text.utf8Len (writeMembers printReal (insertMember key value members))
  | [] => Nat.zero_le _
  | (k, v) :: members => by
    have ih := utf8Len_insertMember key value members
    unfold insertMember
    split
    · rw [utf8Len_writeMembers printReal key value, if_neg (List.cons_ne_nil _ _)]
      omega
    · split
      · exact Nat.le_refl _
      · rw [utf8Len_writeMembers, utf8Len_writeMembers, if_neg (insertMember_ne_nil key value members)]
        by_cases hnil : members = []
        · rw [if_pos hnil]
          omega
        · rw [if_neg hnil]
          omega

/-- The last member of an object is in its text, wherever the order of the keys puts it. -/
theorem utf8Len_sortMembers (m : String × Value) : ∀ members : List (String × Value),
    Text.utf8Len (writeMembers printReal [(m.1, sortKeys m.2)]) ≤
      Text.utf8Len (writeMembers printReal (sortMembers (members ++ [m])))
  | [] => Nat.le_refl _
  | (k, v) :: members => Nat.le_trans (utf8Len_sortMembers m members) (utf8Len_insertMember printReal k (sortKeys v) _)

/-- **The size of a list**: its items, a comma between two of them and a bracket at each end. -/
theorem utf8Len_writeItems : ∀ (v : Value) (items : List Value),
    Text.utf8Len (writeItems printReal (v :: items)) + 1 =
      ((v :: items).map (fun w => Text.utf8Len (write printReal w) + 1)).sum
  | v, [] => rfl
  | v, w :: items => by
    have ih := utf8Len_writeItems w items
    have hcomma : Char.utf8Size ',' = 1 := by decide
    show Text.utf8Len (write printReal v ++ ',' :: writeItems printReal (w :: items)) + 1 = _
    rw [Text.utf8Len_append, Text.utf8Len_cons, hcomma, List.map_cons, List.sum_cons, ← ih]
    omega

theorem utf8Len_writeArr (items : List Value) : Text.utf8Len (write printReal (.arr items)) =
    2 + Text.utf8Len (writeItems printReal items) := by
  have hopen : Char.utf8Size '[' = 1 := by decide
  have hclose : Char.utf8Size ']' = 1 := by decide
  show Text.utf8Len ('[' :: writeItems printReal items ++ [']']) = _
  rw [List.cons_append, Text.utf8Len_cons, Text.utf8Len_append, Text.utf8Len_cons, hopen, hclose, Text.utf8Len_nil]
  omega

theorem utf8Len_writeObj (members : List (String × Value)) : Text.utf8Len (write printReal (.obj members)) =
    2 + Text.utf8Len (writeMembers printReal members) := by
  have hopen : Char.utf8Size '\x7b' = 1 := by decide
  have hclose : Char.utf8Size '\x7d' = 1 := by decide
  show Text.utf8Len ('\x7b' :: writeMembers printReal members ++ ['\x7d']) = _
  rw [List.cons_append, Text.utf8Len_cons, Text.utf8Len_append, Text.utf8Len_cons, hopen, hclose, Text.utf8Len_nil]
  omega

end Size

/-- **The size of a text without control characters**: a quote and a backslash take one byte more. -/
theorem escapedLen_plain : ∀ {s : List Char}, (∀ c ∈ s, Text.isControl c = false) →
    escapedLen s = Text.utf8Len s + s.countP (fun c => c = '"' ∨ c = '\\')
  | [], _ => rfl
  | c :: s, h => by
    have ih := escapedLen_plain fun x hx => h x (List.mem_cons_of_mem c hx)
    have hc := h c List.mem_cons_self
    simp only [Text.isControl, Bool.or_eq_false_iff, decide_eq_false_iff_not] at hc
    have hchar : Text.utf8Len (escapeChar c) = c.utf8Size + if c = '"' ∨ c = '\\' then 1 else 0 := by
      unfold escapeChar
      by_cases hquote : c = '"'
      · subst hquote
        decide
      by_cases hback : c = '\\'
      · subst hback
        decide
      rw [if_neg hquote, if_neg hback]
      iterate 6
        rw [if_neg (by omega)]
      simp [hquote, hback]
    rw [escapedLen_cons, ih, hchar, List.countP_cons, Text.utf8Len_cons]
    simp only [decide_eq_true_eq]
    omega

/-! ## Reading, as serde does -/

/-- The fields of a record: an object's members by name, of which the last counts, or all items of an array. -/
def structFields (names : List String) : Value → Option (List (Option Value))
  | .obj members => some (names.map (fun name => (members.reverse.find? (fun m => m.1 = name)).map Prod.snd))
  | .arr items => if items.length = names.length then some (items.map some) else none
  | _ => none

/-- The member of a name in an object that is read from its text, where no name may come twice. -/
def streamField (members : List (String × Value)) (name : String) : Option (Option Value) :=
  match members.filter (fun m => m.1 = name) with
  | [] => some none
  | [m] => some (some m.2)
  | _ => none

/-- The fields of a record that is read from its text: as `structFields`, but a member twice is an error. -/
def streamFields (names : List String) : Value → Option (List (Option Value))
  | .obj members => names.mapM (streamField members)
  | .arr items => if items.length = names.length then some (items.map some) else none
  | _ => none

def readString : Option Value → Option String
  | some (.str s) => some s
  | _ => none

def readBool : Option Value → Option Bool
  | some (.bool b) => some b
  | _ => none

/-- `Option<String>`: a missing member is `None`, and so is `null`. -/
def readOptionString : Option Value → Option (Option String)
  | none | some .null => some none
  | some (.str s) => some (some s)
  | _ => none

end Json
