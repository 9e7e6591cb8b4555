import RoomTransfer.Timestamp.Pattern
import RoomTransfer.Value.Item

/-! Parts of values, as the fields of a template reach them: items behind brackets and attributes
behind points. Most parts are values themselves; a few only have a name and a text. -/
namespace RoomTransfer.Log

inductive Part where
  | value (v : Value)
  /-- The type of a value. -/
  | kind (v : Value)
  /-- A part that is only shown: the name of its type, its text, and its text inside others. -/
  | other (typeName plain shown : String)

namespace Part

/-- The name of a value's type together with its home. -/
def fullTypeName : Value → String
  | .uuid _ => "uuid.UUID"
  | v => v.qualifiedTypeName

def typeName : Part → String
  | .value v => v.qualifiedTypeName
  | .kind _ => "type"
  | .other typeName _ _ => typeName

def plain : Part → String
  | .value v => v.plain
  | .kind v => "<class '" ++ fullTypeName v ++ "'>"
  | .other _ plain _ => plain

def shown : Part → String
  | .value v => v.shown
  | .other _ _ shown => shown
  | part => part.plain

def item (part : Part) (n : Nat) : Except Failure Value :=
  match part with
  | .value v => v.item n
  | part => .error (.notIndexable part.typeName)

def itemNamed (part : Part) (name : String) : Except Failure Value :=
  match part with
  | .value v => v.itemNamed name
  | part => .error (.notIndexable part.typeName)

def ofInteger (i : Int) : String → Option Value
  | "real" | "numerator" => some (.int i)
  | "imag" => some (.int 0)
  | "denominator" => some (.int 1)
  | _ => none

def ofDouble (x : Number.Binary64) : String → Option Value
  | "real" => some (.float x)
  | "imag" => some (.float .zero)
  | _ => none

def lastMoment : Timestamp :=
  ⟨⟨9999,12,31,by decide,by decide,by decide⟩,86399999999,none,by decide⟩

def ofTimestamp (t : Timestamp) : String → Option Part
  | "year" => some (.value (.int t.date.year))
  | "month" => some (.value (.int t.date.month))
  | "day" => some (.value (.int t.date.day))
  | "hour" => some (.value (.int t.hour))
  | "minute" => some (.value (.int t.minute))
  | "second" => some (.value (.int t.second))
  | "microsecond" => some (.value (.int t.micro))
  | "fold" => some (.value (.int 0))
  | "tzinfo" => match t.offset with
    | none => some (.value .null)
    | some offset => some (.other "datetime.timezone"
        (String.ofList (Timestamp.Pattern.zoneName offset)) (Timestamp.constructedZone offset))
  | "min" => some (.value (.stamp default))
  | "max" => some (.value (.stamp lastMoment))
  | "resolution" =>
    some (.other "datetime.timedelta" "0:00:00.000001" "datetime.timedelta(microseconds=1)")
  | _ => none

/-- The bits of an identifier: so many of them, above the lowest ones. -/
def bitsOf (u : Uuid) (count below : Nat) : Nat :=
  u.bits.toNat / Nat.pow 2 below % Nat.pow 2 count

/-- Who gives the bits of an identifier their meaning, by the three bits in front of its fourth
group. -/
def variantName (u : Uuid) : String :=
  let n := bitsOf u 3 61
  if n < 4 then "reserved for NCS compatibility"
  else if n < 6 then "specified in RFC 4122"
  else if n = 6 then "reserved for Microsoft compatibility"
  else "reserved for future definition"

def ofUuid (u : Uuid) (name : String) : Option Part :=
  let number (n : Nat) : Option Part := some (.value (.int n))
  let text (s : String) : Option Part := some (.value (.text s))
  match name with
  | "hex" => text (String.ofList (Text.hexDigits 32 u.bits.toNat))
  | "int" => number u.bits.toNat
  | "version" =>
    if 4 ≤ bitsOf u 3 61 ∧ bitsOf u 3 61 < 6 then number (bitsOf u 4 76) else some (.value .null)
  | "variant" => text (variantName u)
  | "urn" => text ("urn:uuid:" ++ u.text)
  | "bytes" => some (.value (.bytes u.bytes))
  | "bytes_le" =>
    let bs := u.bytes
    some (.value (.bytes ((bs.take 4).reverse ++ ((bs.drop 4).take 2).reverse ++
      ((bs.drop 6).take 2).reverse ++ bs.drop 8)))
  | "fields" => some (.value (.tuple [.int (bitsOf u 32 96),.int (bitsOf u 16 80),
      .int (bitsOf u 16 64),.int (bitsOf u 8 56),.int (bitsOf u 8 48),.int (bitsOf u 48 0)]))
  | "time_low" => number (bitsOf u 32 96)
  | "time_mid" => number (bitsOf u 16 80)
  | "time_hi_version" => number (bitsOf u 16 64)
  | "clock_seq_hi_variant" => number (bitsOf u 8 56)
  | "clock_seq_low" => number (bitsOf u 8 48)
  | "clock_seq" => number (bitsOf u 14 48)
  | "time" =>
    number ((bitsOf u 12 64 * 0x10000 + bitsOf u 16 80) * 0x100000000 + bitsOf u 32 96)
  | "node" => number (bitsOf u 48 0)
  | "is_safe" => some (.other "SafeUUID" "SafeUUID.unknown" "<SafeUUID.unknown: None>")
  | _ => none

/-- The attribute of a part that a point and a name lead to. -/
def member (part : Part) (name : String) : Except Failure Part :=
  let found : Option Part := match part,name with
    | .value v,"__class__" => some (.kind v)
    | .value (.int i),_ => (ofInteger i name).map .value
    | .value (.bool b),_ => (ofInteger (if b then 1 else 0) name).map .value
    | .value (.float x),_ => (ofDouble x name).map .value
    | .value (.stamp t),_ => ofTimestamp t name
    | .value (.uuid u),_ => ofUuid u name
    | .kind v,"__name__" | .kind v,"__qualname__" => some (.value (.text v.typeName))
    | _,_ => none
  match found with
  | some found => .ok found
  | none => .error (.missingAttribute part.typeName name)

end Part

end RoomTransfer.Log
