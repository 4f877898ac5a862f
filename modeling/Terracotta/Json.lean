import Mathlib.Data.BitVec
/-!
# JSON values and the reading of a record from one

A JSON value as a parsed document holds it, and the constructor-parameter reading of `System.Text.Json`: a record's
parameters are looked up by their JSON names in the members of an object, a member nothing asks for is ignored, and a
parameter without a member takes its default.  Nothing here names a particular record.
-/

/-- An IEEE 754 double, as its bits: the programs here store, compare and print doubles, and compute with few of them. -/
structure F64 where
  bits : BitVec 64
deriving DecidableEq

namespace F64

def exponent (x : F64) : BitVec 11 := x.bits.extractLsb' 52 11

def isFinite (x : F64) : Bool := x.exponent != BitVec.allOnes 11

def isNaN (x : F64) : Bool := !x.isFinite && x.bits.extractLsb' 0 52 != 0

def isZero (x : F64) : Bool := x.bits.extractLsb' 0 63 == 0

/-- The `==` of both languages: a NaN equals nothing, and the two zeros equal each other. -/
def eq (x y : F64) : Bool := !x.isNaN && !y.isNaN && (x.bits == y.bits || (x.isZero && y.isZero))

def zero : F64 := ⟨0⟩

end F64

namespace Json

/-- A JSON value (`serde_json::Value`, a .NET `JsonElement`). -/
inductive Value where
  | null
  | bool (b : Bool)
  | int (n : Int)
  | real (x : F64)
  | str (s : String)
  | arr (items : List Value)
  | obj (members : List (String × Value))

/-! ## Writing, as serde does -/

/-- `Option<T>`: `None` is written as `null`. -/
def ofOption {α : Type} (write : α → Value) : Option α → Value
  | none => .null
  | some a => write a

/-- `f64`: `serde_json` has no number for an infinity or a NaN, and writes `null`. -/
def ofF64 (x : F64) : Value := if x.isFinite then .real x else .null

/-! ## Reading, as `System.Text.Json` does -/

/-- What of `JsonSerializerOptions` decides how a record is read. -/
structure Options where
  -- `PropertyNameCaseInsensitive`
  caseInsensitive : Bool
  -- `PropertyNamingPolicy = CamelCase`
  camelCaseNames : Bool
  -- a `JsonStringEnumConverter` with the camel-case policy is registered for the record's enumerations
  camelCaseEnums : Bool

def Options.default : Options := ⟨false, false, false⟩

/-- `JsonSerializerDefaults.Web` and camel-case enumeration converters. -/
def Options.web : Options := ⟨true, true, true⟩

/-- `JsonNamingPolicy.CamelCase` on a name with one leading capital. -/
def camelCase (name : String) : String :=
  match name.toList with
  | [] => ""
  | c :: cs => String.ofList (c.toLower :: cs)

def lower (s : String) : String := String.ofList (s.toList.map Char.toLower)

def Options.jsonName (o : Options) (name : String) : String := if o.camelCaseNames then camelCase name else name

/-- **Does a member's key name this parameter?** -/
def Options.matches (o : Options) (name key : String) : Bool :=
  if o.caseInsensitive then lower key == lower (o.jsonName name) else key == o.jsonName name

/-- The member read for a parameter: the last one whose key names it. -/
def Options.find (o : Options) (name : String) (members : List (String × Value)) : Option Value :=
  (members.reverse.find? (fun m => o.matches name m.1)).map Prod.snd

/-- One constructor parameter: its member, read, or its default where no member names it.  `none` is a
`JsonException`. -/
def Options.param {α : Type} (o : Options) (members : List (String × Value)) (name : String)
    (read : Value → Option α) (default : α) : Option α :=
  match o.find name members with
  | none => some default
  | some v => read v

/-- A reference type, or a `Nullable`: `null` is read as null. -/
def toNullable {α : Type} (read : Value → Option α) : Value → Option (Option α)
  | .null => some none
  | v => (read v).map some

def toStr : Value → Option String
  | .str s => some s
  | _ => none

def toBool : Value → Option Bool
  | .bool b => some b
  | _ => none

/-- A .NET `int`: a JSON integer in range.  (`NumberHandling` would also take a quoted one; no number here is
written quoted.) -/
def toInt32 : Value → Option Int
  | .int n => if -2147483648 ≤ n ∧ n < 2147483648 then some n else none
  | _ => none

def toF64 : Value → Option F64
  | .real x => some x
  | _ => none

def toList {α : Type} (read : Value → Option α) : Value → Option (List α)
  | .arr items => items.mapM read
  | _ => none

/-- An enumeration: by name, whatever its case, where the converter is registered, and by number in any case. -/
def Options.enum {α : Type} (o : Options) (byName : String → Option α) (byNumber : Int → Option α) :
    Value → Option α
  | .str s => if o.camelCaseEnums then byName (lower s) else none
  | .int n => byNumber n
  | _ => none

/-- An object's members; any other value makes the reading of a record throw. -/
def toMembers : Value → Option (List (String × Value))
  | .obj members => some members
  | _ => none

/-! ## What a reading depends on -/

/-- **A parameter no key names takes its default**, whatever the values are. -/
theorem Options.param_of_unmatched {α : Type} (o : Options) (members : List (String × Value)) (name : String)
    (read : Value → Option α) (default : α) (h : ∀ k ∈ members.map Prod.fst, o.matches name k = false) :
    o.param members name read default = some default := by
  have hnone : members.reverse.find? (fun m => o.matches name m.1) = none := by
    rw [List.find?_eq_none]
    intro m hm
    rw [h m.1 (List.mem_map_of_mem (List.mem_reverse.1 hm))]
    exact Bool.false_ne_true
  simp [Options.param, Options.find, hnone]

theorem Options.web_matches (name key : String) :
    Options.web.matches name key = (lower key == lower (camelCase name)) := rfl

theorem toNullable_str (x : Option String) : toNullable toStr (ofOption .str x) = some x := by
  cases x <;> rfl

/-- **A double comes back, except one JSON has no number for**, which comes back as null. -/
theorem toNullable_f64 (x : Option F64) : toNullable toF64 (ofOption ofF64 x) = some (x.filter F64.isFinite) := by
  cases x with
  | none => rfl
  | some a => cases h : a.isFinite <;> simp [ofOption, ofF64, h, toNullable, toF64, Option.filter]

end Json
