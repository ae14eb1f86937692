import Mathlib.Algebra.Order.Floor.Ring
import Mathlib.Data.Rat.Floor

/-!
# Positions

A position on the map. Its constructor belongs to the maps package and is a parameter of what uses
it; what is relied on is that coordinates in range are kept. Degrees are rational numbers here: the
coordinates are stored and handed on, and nothing is computed with them.

## Main definitions

* `LatLng` : a position, with its coordinates in range.
* `LatLng.KeepsInRange` : what is documented of the constructor.

## Main results

* `LatLng.keepsInRange_clampAndWrap` : the constructor that clamps the latitude and wraps the
  longitude.
-/

namespace SmartHome

/-- A latitude and a longitude in range. -/
structure LatLng where
  latitude : ℚ
  longitude : ℚ
  latitude_mem : -90 ≤ latitude ∧ latitude ≤ 90
  longitude_mem : -180 ≤ longitude ∧ longitude < 180
  deriving DecidableEq

namespace LatLng

/-- A constructor `LatLng(latitude, longitude)` keeps coordinates that are in range. -/
def KeepsInRange (ofDegrees : ℚ → ℚ → LatLng) : Prop :=
  ∀ p : LatLng, ofDegrees p.latitude p.longitude = p

/-! ### A constructor -/

/-- The latitude, clamped. -/
def clampLatitude (latitude : ℚ) : ℚ :=
  if latitude < -90 then -90 else if 90 < latitude then 90 else latitude

/-- The longitude, wrapped. -/
def wrapLongitude (longitude : ℚ) : ℚ :=
  if -180 ≤ longitude ∧ longitude < 180 then longitude
  else longitude + 180 - 360 * ⌊(longitude + 180) / 360⌋ - 180

theorem clampLatitude_mem (latitude : ℚ) :
    -90 ≤ clampLatitude latitude ∧ clampLatitude latitude ≤ 90 := by
  unfold clampLatitude
  split_ifs with hlow hhigh
  · norm_num
  · norm_num
  · exact ⟨not_lt.mp hlow, not_lt.mp hhigh⟩

theorem wrapLongitude_mem (longitude : ℚ) :
    -180 ≤ wrapLongitude longitude ∧ wrapLongitude longitude < 180 := by
  unfold wrapLongitude
  split_ifs with h
  · exact h
  · have hle := Int.floor_le ((longitude + 180) / 360)
    have hlt := Int.lt_floor_add_one ((longitude + 180) / 360)
    rw [le_div_iff₀ (by norm_num)] at hle
    rw [div_lt_iff₀ (by norm_num)] at hlt
    constructor <;> linarith

/-- A constructor that clamps the latitude and wraps the longitude. -/
def clampAndWrap (latitude longitude : ℚ) : LatLng :=
  { latitude := clampLatitude latitude
    longitude := wrapLongitude longitude
    latitude_mem := clampLatitude_mem latitude
    longitude_mem := wrapLongitude_mem longitude }

theorem keepsInRange_clampAndWrap : KeepsInRange clampAndWrap := by
  rintro ⟨latitude, longitude, hlat, hlong⟩
  simp only [clampAndWrap, clampLatitude, wrapLongitude, if_neg (not_lt.mpr hlat.1),
    if_neg (not_lt.mpr hlat.2), if_pos hlong]

end LatLng

end SmartHome
