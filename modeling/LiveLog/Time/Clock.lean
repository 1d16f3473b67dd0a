import LiveLog.Time.Instant

namespace LiveLog

/-!
# The time of day on a printed row

Rows show a moment, given in milliseconds since the first of 1970, as the time
of day in universal time. Moments too far away to have a date show dashes.
-/

namespace Clock

/-- The first and the last millisecond that have a date. -/
def range : Int × Int := (-8334601228800000, 8210266876799999)

/-- The time of day of a moment, to the millisecond. -/
def text (millis : Int) : String :=
  if range.1 ≤ millis ∧ millis ≤ range.2 then
    let ms := (millis % 86400000).toNat
    String.ofList (Instant.padded 2 (ms / 3600000) ++ ':' :: Instant.padded 2 (ms / 60000 % 60) ++
      ':' :: Instant.padded 2 (ms / 1000 % 60) ++ '.' :: Instant.padded 3 (ms % 1000))
  else "--:--:--.---"

/-- The last millisecond before 1970. -/
example : text (-1) = "23:59:59.999" := by decide +kernel

end Clock

end LiveLog
