import Ttac.LocationMap

set_option autoImplicit false

/- The text that `push_location` stores, and how `get_location` takes it apart. -/
namespace Ttac

/-- `alen` of `get_location`, which is also its `p`. -/
def alen (location : Bytes) : Int := findIdx location (chr '|')

def blen (location : Bytes) : Int := location.length - (alen location + 1)

theorem locationReply_some (location : Bytes) : locationReply (some location) = (do
    let latitude ← strncpy location 0 (alen location)
    let longitude ← strncpy location (alen location + 1) (blen location)
    sprintf 256 (locationBody latitude longitude)) := rfl

/-- `get_location` takes this pair out of a text. -/
structure Splits (location latitude longitude : Bytes) : Prop where
  alen_nonneg : 0 ≤ alen location
  blen_nonneg : 0 ≤ blen location
  latitude : strncpy location 0 (alen location) = .ok latitude
  longitude : strncpy location (alen location + 1) (blen location) = .ok longitude

section Splits

variable {front back latitude longitude : Bytes}

/-- A text is split at its first `|`. -/
theorem splits_append (absent : chr '|' ∉ front) :
    Splits (front ++ chr '|' :: back) front back := by
  have place : alen (front ++ chr '|' :: back) = front.length :=
    findIdx_append front back (chr '|') absent
  have rest : blen (front ++ chr '|' :: back) = back.length := by
    rw [blen, place, List.length_append, List.length_cons]
    omega
  have first := strncpy_ok (front ++ chr '|' :: back) 0 front.length (Nat.zero_le _)
  rw [List.drop_zero, List.take_left] at first
  have second := strncpy_ok (front ++ chr '|' :: back) (front.length + 1) back.length (by simp)
  rw [← List.drop_drop, List.drop_left, List.drop_one, List.tail_cons, List.take_length] at second
  constructor
  · omega
  · omega
  · rw [place]
    exact first
  · rw [place, rest]
    exact second

theorem Splits.unique {location : Bytes} (splits : Splits location front back)
    (again : Splits location latitude longitude) : front = latitude ∧ back = longitude := by
  have first := splits.latitude.symm.trans again.latitude
  have second := splits.longitude.symm.trans again.longitude
  exact ⟨Except.ok.inj first, Except.ok.inj second⟩

/-- The split gives a pair back if the latitude has no `|` of its own. -/
theorem splits_locationString_iff :
    Splits (locationString latitude longitude) latitude longitude ↔ chr '|' ∉ latitude := by
  have text (latitude : Bytes) : locationString latitude longitude =
      latitude ++ chr '|' :: longitude := by
    rw [locationString, List.append_assoc]
    rfl
  constructor
  · intro splits present
    obtain ⟨v, r, same, absent⟩ := List.eq_append_cons_of_mem present
    have earlier : Splits (locationString latitude longitude) v (r ++ chr '|' :: longitude) := by
      rw [text, same, List.append_assoc]
      exact splits_append absent
    have lengths := congrArg List.length ((earlier.unique splits).1.trans same)
    rw [List.length_append, List.length_cons] at lengths
    omega
  · intro absent
    rw [text]
    exact splits_append absent

theorem locationBody_length (latitude longitude : Bytes) :
    (locationBody latitude longitude).length = 26 + latitude.length + longitude.length := by
  have opening : (ascii "\x7b\"latitude\":").length = 12 := by decide
  have between : (ascii ",\"longitude\":").length = 13 := by decide
  have closing : (ascii "\x7d").length = 1 := by decide
  simp only [locationBody, List.length_append, opening, between, closing]
  omega

theorem Splits.reply {location : Bytes} (splits : Splits location latitude longitude) :
    locationReply (some location) = sprintf 256 (locationBody latitude longitude) := by
  simp only [locationReply_some, splits.latitude, splits.longitude, bind, Except.bind]

end Splits

/-- The pair is stored, `get_location` takes the same pair out of the text, and the body it
makes of it fits its array. -/
def Recovers (latitude longitude : Bytes) : Prop :=
  ∃ location, locationText latitude longitude = .ok location ∧
    Splits location latitude longitude ∧
      locationReply (some location) = .ok (locationBody latitude longitude)

/-- A pair is recovered if its latitude has no `|` and both are short. -/
theorem recovers_iff (latitude longitude : Bytes) : Recovers latitude longitude ↔
    chr '|' ∉ latitude ∧ latitude.length + longitude.length + 26 < 256 := by
  have length := locationBody_length latitude longitude
  constructor
  · intro recovers
    obtain ⟨location, stored, splits, reply⟩ := recovers
    have text : location = locationString latitude longitude := by
      dsimp only [locationText] at stored
      split at stored
      · cases stored
      · exact (Except.ok.inj stored).symm
    subst text
    rw [splits.reply] at reply
    have fits := (sprintf_ok reply).1
    exact ⟨splits_locationString_iff.mp splits, by omega⟩
  · intro parts
    obtain ⟨absent, short⟩ := parts
    have splits : Splits (locationString latitude longitude) latitude longitude :=
      splits_locationString_iff.mpr absent
    refine ⟨_, locationText_short (by omega), splits, ?_⟩
    rw [splits.reply]
    exact if_neg (by omega)

/-- A `|` in the latitude comes back as the end of it. -/
theorem recovers_bar : ¬ Recovers (ascii "1|2") (ascii "3") := by
  intro recovers
  obtain ⟨location, stored, splits, -⟩ := recovers
  rw [locationText_short (by decide)] at stored
  cases stored
  exact splits_locationString_iff.mp splits (by decide)

end Ttac
