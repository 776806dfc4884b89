import LynxSuzy.Json.Codec

/-!
Contract: what is written of the chip is read back as it was.

Owns: for each kind of value, which documents are read as a given one. A byte, a
word or a list of bytes has a single written form, so reading it is the exact
inverse of writing. A record has others. The written one is read back, and so is
the array of its fields.

Does **not** own: the sections of a saved state (`Proofs.Restoring`).
-/

set_option autoImplicit false

namespace LynxSuzy.Json

/-! ## Numbers -/

theorem natBelow?_eq_some {bound value : Nat} {document : Json} :
    document.natBelow? bound = some value ↔ document = integer value ∧ value < bound := by
  constructor
  · intro read
    unfold natBelow? at read
    split at read
    · rename_i written
      by_cases below : written < bound
      · rw [if_pos below, Option.some.injEq] at read
        subst read
        exact ⟨rfl, below⟩
      · rw [if_neg below] at read
        contradiction
    · contradiction
  · rintro ⟨rfl, below⟩
    exact if_pos below

/-- A number type whose values are the numbers below a bound is read exactly
from the integers that stand for them. -/
theorem map_natBelow?_eq_some {Number : Type} {bound : Nat} {ofNat : Nat → Number}
    {toNat : Number → Nat} (below : ∀ number, toNat number < bound)
    (ofNat_toNat : ∀ number, ofNat (toNat number) = number)
    (toNat_ofNat : ∀ value, value < bound → toNat (ofNat value) = value)
    {document : Json} {number : Number} :
    (document.natBelow? bound).map ofNat = some number
      ↔ document = integer (toNat number) := by
  rw [Option.map_eq_some_iff]
  constructor
  · rintro ⟨value, read, rfl⟩
    obtain ⟨rfl, inRange⟩ := natBelow?_eq_some.1 read
    rw [toNat_ofNat value inRange]
  · rintro rfl
    exact ⟨toNat number, natBelow?_eq_some.2 ⟨rfl, below number⟩, ofNat_toNat number⟩

theorem byte?_eq_some {document : Json} {value : UInt8} :
    document.byte? = some value ↔ document = ofByte value :=
  map_natBelow?_eq_some UInt8.toNat_lt_size (fun _ => UInt8.ofNat_toNat)
    (fun _ => UInt8.toNat_ofNat_of_lt)

theorem word?_eq_some {document : Json} {value : UInt16} :
    document.word? = some value ↔ document = ofWord value :=
  map_natBelow?_eq_some UInt16.toNat_lt_size (fun _ => UInt16.ofNat_toNat)
    (fun _ => UInt16.toNat_ofNat_of_lt)

theorem long?_eq_some {document : Json} {value : UInt32} :
    document.long? = some value ↔ document = ofLong value :=
  map_natBelow?_eq_some UInt32.toNat_lt_size (fun _ => UInt32.ofNat_toNat)
    (fun _ => UInt32.toNat_ofNat_of_lt)

@[simp] theorem byte?_ofByte (value : UInt8) : (ofByte value).byte? = some value :=
  byte?_eq_some.2 rfl

@[simp] theorem word?_ofWord (value : UInt16) : (ofWord value).word? = some value :=
  word?_eq_some.2 rfl

@[simp] theorem long?_ofLong (value : UInt32) : (ofLong value).long? = some value :=
  long?_eq_some.2 rfl

@[simp] theorem bool?_bool (value : Bool) : (bool value).bool? = some value := rfl

/-! ## Lists of bytes -/

theorem mapM_eq_some {Written Value : Type} {read : Written → Option Value}
    {write : Value → Written}
    (exact : ∀ {written value}, read written = some value ↔ written = write value)
    {elements : List Written} {values : List Value} :
    elements.mapM read = some values ↔ elements = values.map write := by
  induction elements generalizing values with
  | nil =>
      cases values with
      | nil => simp
      | cons value rest => simp
  | cons element elements ih =>
      rw [List.mapM_cons]
      cases values with
      | nil => simp [Option.bind_eq_some_iff]
      | cons value rest => simp [Option.bind_eq_some_iff, exact, ih]

theorem bytes?_eq_some {document : Json} {bytes : Array UInt8} :
    document.bytes? = some bytes ↔ document = ofBytes bytes.toList := by
  unfold bytes? ofBytes
  cases document with
  | array elements =>
      have read : (elements.toArray.mapM byte?) = some bytes
          ↔ elements.mapM byte? = some bytes.toList := by
        rw [List.mapM_toArray]
        constructor
        · intro mapped
          obtain ⟨values, each, rfl⟩ := Option.map_eq_some_iff.1 mapped
          exact each
        · intro each
          exact Option.map_eq_some_iff.2 ⟨bytes.toList, each, rfl⟩
      rw [array.injEq, ← mapM_eq_some byte?_eq_some, ← read]
      rfl
  | _ => simp [elements?]

@[simp] theorem bytes?_ofBytes (bytes : List UInt8) :
    (ofBytes bytes).bytes? = some bytes.toArray :=
  bytes?_eq_some.2 rfl

@[simp] theorem sixteenBytes?_ofBytes (bytes : Vector UInt8 16) :
    (ofBytes bytes.toList).sixteenBytes? = some bytes := by
  rw [sixteenBytes?, bytes?_ofBytes]
  exact dif_pos bytes.size_toArray

/-! ## Records -/

theorem mapM_id_map_some (fields : List Json) : (fields.map some).mapM id = some fields :=
  (mapM_eq_some (by simp)).2 rfl

/-- An object with the members of a record, and no others, in order. -/
theorem record?_object {names : List String} {members : List (String × Json)}
    (named : members.map Prod.fst = names) (distinct : names.Nodup) :
    (object members).record? names = some (members.map Prod.snd) := by
  have found : names.map (fun name => members.lookup name)
      = (members.map Prod.snd).map some := by
    subst named
    rw [List.map_map, List.map_map]
    apply List.map_congr_left
    intro member mem
    obtain ⟨earlier, later, rfl⟩ := List.append_of_mem mem
    refine List.lookup_eq_some_iff.2 ⟨earlier, later, rfl, ?_⟩
    intro other before
    rw [List.map_append, List.map_cons] at distinct
    have apart := (List.nodup_append.1 distinct).2.2 other.1 (List.mem_map_of_mem before)
      member.1 List.mem_cons_self
    exact bne_iff_ne.2 apart.symm
  show (names.map fun name => members.lookup name).mapM id = some (members.map Prod.snd)
  rw [found, mapM_id_map_some]

/-- The members of an object without their names. -/
def listed : Json → Json
  | object members => array (members.map Prod.snd)
  | document => document

/-- An object with the members of a record is read like the array of its fields. -/
theorem record?_listed {names : List String} {members : List (String × Json)}
    (named : members.map Prod.fst = names) (distinct : names.Nodup) :
    (listed (object members)).record? names = (object members).record? names := by
  have complete : (members.map Prod.snd).length = names.length := by
    rw [← named, List.length_map, List.length_map]
  rw [record?_object named distinct, record?, listed, fields?, if_pos complete]
  exact mapM_id_map_some _

end Json

open Json

@[simp] theorem Arithmetic.ofJson?_toJson (unit : Arithmetic) :
    Arithmetic.ofJson? unit.toJson = some unit := by
  rw [ofJson?, toJson, @record?_object fieldNames _ rfl (by decide)]
  simp only [List.map_cons, List.map_nil, Option.bind_eq_bind, Option.bind_some, word?_ofWord,
    long?_ofLong, bool?_bool]
  rfl

@[simp] theorem Collisions.ofJson?_toJson (buffer : Collisions) :
    Collisions.ofJson? buffer.toJson = some buffer := by
  rw [ofJson?, toJson, @record?_object fieldNames _ rfl (by decide)]
  simp only [List.map_cons, List.map_nil, Option.bind_eq_bind, Option.bind_some,
    sixteenBytes?_ofBytes, bool?_bool]
  rfl

@[simp] theorem Sprite.Latches.ofJson?_toJson (latches : Latches) :
    Latches.ofJson? latches.toJson = some latches := by
  rw [ofJson?, toJson, @record?_object fieldNames _ rfl (by decide)]
  simp only [List.map_cons, List.map_nil, Option.bind_eq_bind, Option.bind_some, word?_ofWord,
    sixteenBytes?_ofBytes]
  rfl

theorem bind_of_read {Field Result : Type} {read : Option Field} {next : Field → Option Result}
    {field : Field} {result : Result} (found : read = some field)
    (rest : next field = some result) : (read >>= next) = some result := by
  rw [found]
  exact rest

@[simp] theorem Registers.ofJson?_toJson (registers : Registers) :
    Registers.ofJson? registers.toJson = some registers := by
  refine bind_of_read (@record?_object fieldNames _ rfl (by decide)) ?_
  -- The fields are gone through in order; simplifying all of them at once is slow.
  show ((ofWord registers.horizontalOffset).word? >>= _) = some registers
  repeat
    first
    | refine bind_of_read (word?_ofWord _) ?_
    | refine bind_of_read (byte?_ofByte _) ?_
    | refine bind_of_read (bool?_bool _) ?_
    | refine bind_of_read (Arithmetic.ofJson?_toJson _) ?_
    | refine bind_of_read (Collisions.ofJson?_toJson _) ?_
    | refine bind_of_read (Sprite.Latches.ofJson?_toJson _) ?_
  rfl

theorem Registers.ofJson?_listed (registers : Registers) :
    Registers.ofJson? registers.toJson.listed = some registers := by
  have alike : registers.toJson.listed.record? fieldNames = registers.toJson.record? fieldNames :=
    record?_listed rfl (by decide)
  rw [ofJson?, alike]
  exact registers.ofJson?_toJson

end LynxSuzy
