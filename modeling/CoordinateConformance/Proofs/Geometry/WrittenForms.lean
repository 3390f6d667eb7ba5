import CoordinateConformance.Geometry.Document
import CoordinateConformance.Proofs.Json.NumberRecords

/-!
Contract: the texts of rectangles and geographic points are read as what they were written for.

Both are records of numbers. Reading puts no corners in order and exchanges no axes: a number goes
into the field whose key it stands under, or, in an array, whose place it stands in. That the name
of each field goes with its own number is all that is particular to the two types. The texts are
those of any lawful library for JSON.

Owns: `Rectangle.numbers`, `GeographicPoint.numbers`, `geometricTexts_readBack`.

Does **not** own: what the numbers mean.
-/

namespace CoordinateConformance

open Json (NumberCodec NumberRecord)

namespace Rectangle

inductive Border where
  | xMin
  | yMin
  | xMax
  | yMax
deriving DecidableEq

/-- The borders of a rectangle, the least ones first. -/
def numbers (α : Type) : NumberRecord Border (Rectangle α) α where
  order := [.xMin, .yMin, .xMax, .yMax]
  name
    | .xMin => "x_min"
    | .yMin => "y_min"
    | .xMax => "x_max"
    | .yMax => "y_max"
  get
    | .xMin => xMin
    | .yMin => yMin
    | .xMax => xMax
    | .yMax => yMax
  set
    | .xMin, number, r => { r with xMin := number }
    | .yMin, number, r => { r with yMin := number }
    | .xMax, number, r => { r with xMax := number }
    | .yMax, number, r => { r with yMax := number }
  mem_order border := by cases border <;> decide
  nodup_order := by decide
  name_injective left right same := by
    cases left <;> cases right <;> first | rfl | exact absurd same (by decide)
  get_set_self border number r := by cases border <;> rfl
  get_set_other border other number r different := by
    cases border <;> cases other <;> first | rfl | exact absurd rfl different
  eq_of_get_eq left right same := by
    obtain ⟨xMin, yMin, xMax, yMax⟩ := left
    obtain ⟨_, _, _, _⟩ := right
    congr
    · exact same .xMin
    · exact same .yMin
    · exact same .xMax
    · exact same .yMax

end Rectangle

namespace GeographicPoint

inductive Axis where
  | latitude
  | longitude
deriving DecidableEq

/-- The coordinates of a geographic point, the latitude first. -/
def numbers : NumberRecord Axis (GeographicPoint Float) Float where
  order := [.latitude, .longitude]
  name
    | .latitude => "lat"
    | .longitude => "lon"
  get
    | .latitude => latitude
    | .longitude => longitude
  set
    | .latitude, number, point => { point with latitude := number }
    | .longitude, number, point => { point with longitude := number }
  mem_order axis := by cases axis <;> decide
  nodup_order := by decide
  name_injective left right same := by
    cases left <;> cases right <;> first | rfl | exact absurd same (by decide)
  get_set_self axis number point := by cases axis <;> rfl
  get_set_other axis other number point different := by
    cases axis <;> cases other <;> first | rfl | exact absurd rfl different
  eq_of_get_eq left right same := by
    obtain ⟨latitude, longitude⟩ := left
    obtain ⟨_, _⟩ := right
    congr
    · exact same .latitude
    · exact same .longitude

end GeographicPoint

/-- Rectangles of both kinds of numbers and geographic points are read back from all their texts,
number by number and bit for bit, and texts that leave a number open are refused. -/
theorem geometricTexts_readBack [Json.Library] [Json.LawfulLibrary] :
    (∀ zero : Float, (Rectangle.numbers Float).TextsReadBack .float (Rectangle.toJson Json.ofFloat)
      (Rectangle.fromJson zero Json.readFloat)) ∧
    (∀ zero : Int32, (Rectangle.numbers Int32).TextsReadBack .int32
      (Rectangle.toJson fun value => .ofInt value.toInt)
      (Rectangle.fromJson zero Json.readInt32)) ∧
    GeographicPoint.numbers.TextsReadBack .float GeographicPoint.toJson
      GeographicPoint.fromJson :=
  -- Writers and formats of both types unfold to those of their records of numbers.
  ⟨fun zero => (Rectangle.numbers Float).textsReadBack .float ⟨zero, zero, zero, zero⟩,
    fun zero => (Rectangle.numbers Int32).textsReadBack .int32 ⟨zero, zero, zero, zero⟩,
    GeographicPoint.numbers.textsReadBack .float GeographicPoint.origin⟩

open scoped StandardJson in
/-- Corners out of order, a zero with a sign, the least and the greatest number; an array; members
in another order with one more among them; and a null. -/
theorem geometricTexts_readBack_unordered :
    Rectangle.fromJson 0.0 Json.readFloat
        (Rectangle.toJson Json.ofFloat ⟨1.7976931348623157e308, -0.0, 5e-324, -3.5⟩).compact =
      .ok ⟨1.7976931348623157e308, -0.0, 5e-324, -3.5⟩ ∧
    Rectangle.fromJson 0 Json.readInt32
        (Json.array [.ofInt 2147483647, .ofInt 0, .ofInt (-2147483648), .ofInt (-1)]).compact =
      .ok ⟨2147483647, 0, -2147483648, -1⟩ ∧
    GeographicPoint.fromJson
        (Json.object [("lon", .ofFloat (-0.0)), ("name", .string "lat"),
          ("lat", .ofFloat 90.0)]).compact = .ok ⟨90.0, -0.0⟩ ∧
    ∃ fault, GeographicPoint.fromJson
      (Json.object [("lat", .ofFloat 90.0), ("lon", .null)]).compact = .error fault := by
  obtain ⟨rectangles, integerRectangles, points⟩ := geometricTexts_readBack
  have written := Json.Grammar.text_stringDraft
  have float := fun number finite =>
    NumberCodec.float.denotes_write number _ finite (Json.Grammar.toJson_draft _)
  have integer := fun number =>
    NumberCodec.int32.denotes_write number _ trivial (Json.Grammar.toJson_draft _)
  have wellFormedFloat := Json.wellFormed_ofFloat
  refine ⟨?corners, ?items, ?members, ?null⟩
  case corners =>
    refine ((rectangles 0.0).written _ fun border => ?_).1
    cases border <;> exact show Float.isFinite _ = true by decide +kernel
  case items =>
    refine (integerRectangles 0).array ⟨2147483647, 0, -2147483648, -1⟩ _ _
      (Json.Grammar.documentText_compact (.array ?_))
      (.cons (integer 2147483647) (.cons (integer 0)
        (.cons (integer (-2147483648)) (.cons (integer (-1)) .nil))))
    simp only [List.forall_mem_cons]
    exact ⟨.number Nat.one_pos, .number Nat.one_pos, .number Nat.one_pos, .number Nat.one_pos,
      nofun⟩
  case members =>
    have negativeZero : (-0.0 : Float).isFinite = true := by decide +kernel
    have ninety : (90.0 : Float).isFinite = true := by decide +kernel
    refine points.object ⟨90.0, -0.0⟩ _ [some .longitude, none, some .latitude] _
      (Json.Grammar.documentText_compact (.object ?_))
      (.cons (.field (written "lon") (float (-0.0) negativeZero))
        (.cons (.other (written "name") ?_)
          (.cons (.field (written "lat") (float 90.0 ninety)) .nil))) ?_
    · simp only [List.forall_mem_cons]
      exact ⟨wellFormedFloat _, .string "lat", wellFormedFloat _, nofun⟩
    · intro axis
      cases axis <;> decide
    · decide
  case null =>
    refine points.null _ _ .longitude (Json.Grammar.stringDraft "lon")
      (Json.Grammar.documentText_compact (.object ?_)) (.tail _ (.head _)) (written "lon")
    simp only [List.forall_mem_cons]
    exact ⟨wellFormedFloat _, .null, nofun⟩

end CoordinateConformance
