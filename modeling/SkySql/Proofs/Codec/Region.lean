import SkySql.Proofs.Stcs.Printing
import SkySql.Statement.Decoder
import SkySql.Statement.Encoder

set_option autoImplicit false

/-!
Region values in JSON, and what holds of records in JSON as such. Of each decoder two things are
said: what is written is read back, and what is read at all is good. For a region to be good its
angles must be finite, since JSON has no other numbers.
-/

namespace SkySql

open Json (fields? string? bool? natural? float? list? option? required? optional? defaulted?
  choice? tagged? field? tagged ofOption ofNatural ofStrings ofFloat)

namespace Json

section Written

variable {α : Type} {decode : Json → Option α}

@[simp]
theorem tagged?_tagged (tag : String) (payload : Json) :
    tagged? (tagged tag payload) = some (tag, payload) := rfl

@[simp]
theorem depth_tagged (tag : String) (payload : Json) :
    (tagged tag payload).depth = payload.depth + 1 := by
  simp [tagged, depth, depthFields, Nat.add_comm]

@[simp]
theorem depth_object_pos (fields : List (String × Json)) : 0 < (object fields).depth := by
  rw [depth]
  omega

theorem depth_items_le {items : List Json} {levels : Nat} (deep : (array items).depth ≤ levels) :
    ∀ item ∈ items, item.depth ≤ levels := by
  have inside : depthItems items ≤ levels := by
    rw [depth] at deep
    omega
  clear deep
  induction items with
  | nil => simp
  | cons item items inductionHypothesis =>
      rw [depthItems, Nat.max_le] at inside
      exact List.forall_mem_cons.mpr ⟨inside.1, inductionHypothesis inside.2⟩

theorem depth_fields_le {fields : List (String × Json)} {levels : Nat}
    (deep : (object fields).depth ≤ levels + 1) : ∀ field ∈ fields, field.2.depth ≤ levels := by
  have inside : depthFields fields ≤ levels := by
    rw [depth] at deep
    omega
  clear deep
  induction fields with
  | nil => simp
  | cons field fields inductionHypothesis =>
      rw [depthFields, Nat.max_le] at inside
      exact List.forall_mem_cons.mpr ⟨inside.1, inductionHypothesis inside.2⟩

theorem depth_payload_le {tag : String} {payload : Json} {levels : Nat}
    (deep : (tagged tag payload).depth ≤ levels + 1) : payload.depth ≤ levels :=
  depth_fields_le deep (tag, payload) List.mem_cons_self

theorem depth_record_le {tag : String} {fields : List (String × Json)} {levels : Nat}
    (deep : (tagged tag (.object fields)).depth ≤ levels + 1) :
    ∀ field ∈ fields, field.2.depth ≤ levels :=
  depth_fields_le (Nat.le_succ_of_le (depth_payload_le deep))

@[simp]
theorem fields?_object (fields : List (String × Json)) :
    fields? (.object fields) = some fields := rfl

@[simp]
theorem string?_string (value : String) : string? (.string value) = some value := rfl

@[simp]
theorem bool?_bool (value : Bool) : bool? (.bool value) = some value := rfl

@[simp]
theorem option?_null : option? decode .null = some none := rfl

/-- Arrays and objects are not nothing. -/
theorem option?_of_depth {json : Json} (nested : 0 < json.depth) :
    option? decode json = (decode json).map some := by
  cases json with
  | null => simp [depth] at nested
  | _ => rfl

@[simp]
theorem option?_ofOption (text : Option String) : option? string? (ofOption text) = some text := by
  cases text <;> rfl

@[simp]
theorem option?_ofNatural (value : Option Nat) :
    option? natural? (ofNatural value) = some value := by
  cases value <;> rfl

theorem list?_map {encode : α → Json} {values : List α}
    (read : ∀ value ∈ values, decode (encode value) = some value) :
    list? decode (.array (values.map encode)) = some values := by
  induction values with
  | nil => rfl
  | cons value values inductionHypothesis =>
      have others : (values.map encode).mapM decode = some values :=
        inductionHypothesis fun other membership => read other (List.mem_cons_of_mem _ membership)
      simp [list?, read value List.mem_cons_self, others]

@[simp]
theorem list?_ofStrings (texts : List String) : list? string? (ofStrings texts) = some texts :=
  list?_map fun _ _ => rfl

theorem float?_ofFloat {value : Float} (finite : Decimal.isFinite value = true) :
    float? (ofFloat value) = some value := by
  simp [ofFloat, float?, Number.toFloat?, finite]

end Written

section Decoded

variable {α : Type} {decode : Json → Option α} {fields : List (String × Json)} {name : String}

/-- All that a decoder accepts is good. -/
def Yields (decode : Json → Option α) (good : α → Prop) : Prop :=
  ∀ json value, decode json = some value → good value

variable {good : α → Prop}

theorem Yields.required {value : α} (yields : Yields decode good)
    (decoded : required? fields name decode = some value) : good value := by
  obtain ⟨found, -, decoded⟩ := Option.bind_eq_some_iff.mp decoded
  obtain ⟨json, -, decoded⟩ := Option.bind_eq_some_iff.mp decoded
  exact yields json value decoded

theorem Yields.optional {option : Option α} (yields : Yields decode good)
    (decoded : optional? fields name decode = some option) : ∀ value ∈ option, good value := by
  obtain ⟨found, -, decoded⟩ := Option.bind_eq_some_iff.mp decoded
  rintro value ⟨⟩
  cases found with
  | none => cases decoded
  | some json =>
      cases json with
      | null => cases decoded
      | _ => exact yields _ value (by simpa [option?] using decoded)

theorem Yields.defaulted {fallback value : α} (yields : Yields decode good) (given : good fallback)
    (decoded : defaulted? fields name fallback decode = some value) : good value := by
  obtain ⟨found, -, decoded⟩ := Option.bind_eq_some_iff.mp decoded
  cases found with
  | none =>
      cases decoded
      exact given
  | some json => exact yields json value decoded

theorem Yields.list (yields : Yields decode good) :
    Yields (list? decode) fun values => ∀ value ∈ values, good value := by
  intro json values decoded
  cases json with
  | array items =>
      have read : items.mapM decode = some values := decoded
      clear decoded
      induction items generalizing values with
      | nil =>
          cases read
          simp
      | cons item items inductionHypothesis =>
          rw [List.mapM_cons] at read
          obtain ⟨first, found, read⟩ := Option.bind_eq_some_iff.mp read
          obtain ⟨others, rest, read⟩ := Option.bind_eq_some_iff.mp read
          cases read
          exact List.forall_mem_cons.mpr ⟨yields item first found, inductionHypothesis others rest⟩
  | _ => cases decoded

/-- The items of a list that may be missing. -/
theorem Yields.listed {values : List α} (yields : Yields decode good)
    (decoded : defaulted? fields name [] (list? decode) = some values) :
    ∀ value ∈ values, good value :=
  yields.list.defaulted (List.forall_mem_nil _) decoded

theorem float?_yields : Yields float? fun value => Decimal.isFinite value = true := by
  intro json value decoded
  cases json with
  | number number => exact (Option.filter_eq_some_iff.mp decoded).2
  | _ => cases decoded

end Decoded

end Json

/-- Angles that have a JSON form. -/
def AreFinite (angles : List Float) : Prop := ∀ angle ∈ angles, Decimal.isFinite angle = true

@[simp]
theorem areFinite_append {first second : List Float} :
    AreFinite (first ++ second) ↔ AreFinite first ∧ AreFinite second :=
  List.forall_mem_append

namespace Sphere.Point

theorem ofJson?_toJson {point : Point} (finite : AreFinite [point.lon, point.lat]) :
    ofJson? point.toJson = some point := by
  have lon := Json.float?_ofFloat (finite point.lon (by simp))
  have lat := Json.float?_ofFloat (finite point.lat (by simp))
  simp [ofJson?, toJson, required?, field?, lon, lat]

theorem ofJson?_yields : Json.Yields ofJson? fun point => AreFinite [point.lon, point.lat] := by
  intro json point decoded
  obtain ⟨fields, -, decoded⟩ := Option.bind_eq_some_iff.mp decoded
  obtain ⟨lon, readLon, decoded⟩ := Option.bind_eq_some_iff.mp decoded
  obtain ⟨lat, readLat, decoded⟩ := Option.bind_eq_some_iff.mp decoded
  cases decoded
  simp [AreFinite, Json.float?_yields.required readLon, Json.float?_yields.required readLat]

end Sphere.Point

namespace Geometry

theorem ofJson?_toJson {geometry : Geometry} (finite : AreFinite (Stcs.geometryAngles geometry)) :
    ofJson? geometry.toJson = some geometry := by
  cases geometry with
  | point point =>
      have read := Sphere.Point.ofJson?_toJson finite
      simp [ofJson?, toJson, read]
  | circle circle =>
      have parts : AreFinite ([circle.center.lon, circle.center.lat] ++ [circle.radius]) := finite
      obtain ⟨center, radius⟩ := areFinite_append.mp parts
      have center := Sphere.Point.ofJson?_toJson center
      have radius := Json.float?_ofFloat (radius circle.radius (by simp))
      simp [ofJson?, toJson, required?, field?, center, radius]
  | polygon polygon =>
      have vertices := Json.list?_map fun vertex membership =>
        Sphere.Point.ofJson?_toJson fun angle listed =>
          finite angle (List.mem_flatMap.mpr ⟨vertex, membership, listed⟩)
      simp [ofJson?, toJson, required?, field?, vertices]

theorem ofJson?_yields :
    Json.Yields ofJson? fun geometry => AreFinite (Stcs.geometryAngles geometry) := by
  intro json geometry decoded
  obtain ⟨⟨tag, payload⟩, -, decoded⟩ := Option.bind_eq_some_iff.mp decoded
  dsimp only at decoded
  split at decoded
  · obtain ⟨point, read, decoded⟩ := Option.bind_eq_some_iff.mp decoded
    cases decoded
    exact Sphere.Point.ofJson?_yields payload point read
  · obtain ⟨fields, -, decoded⟩ := Option.bind_eq_some_iff.mp decoded
    obtain ⟨center, readCenter, decoded⟩ := Option.bind_eq_some_iff.mp decoded
    obtain ⟨radius, readRadius, decoded⟩ := Option.bind_eq_some_iff.mp decoded
    cases decoded
    have finite : AreFinite ([center.lon, center.lat] ++ [radius]) :=
      areFinite_append.mpr ⟨Sphere.Point.ofJson?_yields.required readCenter,
        by simp [AreFinite, Json.float?_yields.required readRadius]⟩
    exact finite
  · obtain ⟨fields, -, decoded⟩ := Option.bind_eq_some_iff.mp decoded
    obtain ⟨vertices, read, decoded⟩ := Option.bind_eq_some_iff.mp decoded
    cases decoded
    intro angle membership
    obtain ⟨vertex, listed, membership⟩ := List.mem_flatMap.mp membership
    exact Sphere.Point.ofJson?_yields.list.required read vertex listed angle membership
  · cases decoded

end Geometry

namespace Stcs

@[simp]
theorem choice?_regionOp (op : RegionOp) :
    choice? RegionOp.all (·.tag) (.string op.tag) = some op := by
  cases op <;> rfl

theorem Value.depth_pos (value : Value) : 0 < value.toJson.depth := by
  cases value <;> simp [Value.toJson]

theorem Region.depth_pos (region : Region) : 0 < region.toJson.depth := by
  cases region
  simp [Region.toJson]

mutual

theorem valueAt?_toJson (value : Value) {levels : Nat} (finite : AreFinite value.angles)
    (deep : value.toJson.depth ≤ levels) : valueAt? levels value.toJson = some value := by
  obtain ⟨levels, rfl⟩ := Nat.exists_eq_add_one.mpr (value.depth_pos.trans_le deep)
  match value with
  | .concrete geometry =>
      have read : Geometry.ofJson? geometry.toJson = some geometry := Geometry.ofJson?_toJson finite
      simp [valueAt?, Value.toJson, read]
  | .unresolved region =>
      have read := regionAt?_toJson region finite (Json.depth_payload_le deep)
      simp [valueAt?, Value.toJson, read]

theorem regionAt?_toJson (region : Region) {levels : Nat}
    (finite : AreFinite (Value.unresolved region).angles) (deep : region.toJson.depth ≤ levels) :
    regionAt? levels region.toJson = some region := by
  obtain ⟨levels, rfl⟩ := Nat.exists_eq_add_one.mpr (region.depth_pos.trans_le deep)
  match region with
  | { op, frame, operands } =>
      have inside := Json.depth_fields_le deep
      simp only [List.forall_mem_cons] at inside
      have read := valuesAt?_toJson operands finite (Json.depth_items_le inside.2.2.1)
      simp [regionAt?, Region.toJson, required?, optional?, field?, list?, read]

theorem valuesAt?_toJson (values : List Value) {levels : Nat}
    (finite : AreFinite (operandAngles values))
    (deep : ∀ item ∈ valuesToJson values, item.depth ≤ levels) :
    (valuesToJson values).mapM (valueAt? levels) = some values := by
  match values with
  | [] => rfl
  | value :: values =>
      obtain ⟨first, others⟩ := areFinite_append.mp finite
      obtain ⟨deep, deeper⟩ := List.forall_mem_cons.mp deep
      simp [valuesToJson, valueAt?_toJson value first deep, valuesAt?_toJson values others deeper]

end

theorem areFinite_operands {operands : List Value}
    (finite : ∀ operand ∈ operands, AreFinite operand.angles) :
    AreFinite (operandAngles operands) := by
  induction operands with
  | nil => simp [operandAngles, AreFinite]
  | cons operand operands inductionHypothesis =>
      obtain ⟨first, others⟩ := List.forall_mem_cons.mp finite
      exact areFinite_append.mpr ⟨first, inductionHypothesis others⟩

mutual

theorem valueAt?_yields : ∀ levels, Json.Yields (valueAt? levels) (AreFinite ·.angles)
  | 0 => nofun
  | levels + 1 => by
      intro json value decoded
      obtain ⟨⟨tag, payload⟩, -, decoded⟩ := Option.bind_eq_some_iff.mp decoded
      dsimp only at decoded
      split at decoded
      · obtain ⟨geometry, read, decoded⟩ := Option.bind_eq_some_iff.mp decoded
        cases decoded
        exact Geometry.ofJson?_yields payload geometry read
      · obtain ⟨region, read, decoded⟩ := Option.bind_eq_some_iff.mp decoded
        cases decoded
        exact regionAt?_yields levels payload region read
      · cases decoded

theorem regionAt?_yields :
    ∀ levels, Json.Yields (regionAt? levels) fun region =>
      AreFinite (Value.unresolved region).angles
  | 0 => nofun
  | levels + 1 => by
      intro json region decoded
      obtain ⟨fields, -, decoded⟩ := Option.bind_eq_some_iff.mp decoded
      obtain ⟨op, -, decoded⟩ := Option.bind_eq_some_iff.mp decoded
      obtain ⟨frame, -, decoded⟩ := Option.bind_eq_some_iff.mp decoded
      obtain ⟨operands, read, decoded⟩ := Option.bind_eq_some_iff.mp decoded
      cases decoded
      exact areFinite_operands ((valueAt?_yields levels).list.required read)

end

end Stcs

end SkySql
