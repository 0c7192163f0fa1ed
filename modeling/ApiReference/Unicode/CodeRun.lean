/-!
# Runs of code points

A property of characters is listed by the runs of code points that have it. A run is a pair of its
first and its last code point; an *alternating* run holds every second code point between the two.
The tables of this folder list the characters beyond ASCII only, and the definitions beside them
answer for ASCII by themselves.

## Main definitions

* `inRuns`, `inAlternatingRuns`: membership of a character in a list of runs.
* `mapped`: the image of a character under a mapping that is listed by runs.
-/

namespace ApiReference.Unicode

/-- Whether a character lies in one of the runs. -/
def inRuns (runs : List (Nat × Nat)) (c : Char) : Bool :=
  runs.any fun (first, last) ↦ first ≤ c.toNat && c.toNat ≤ last

/-- Whether a character lies in one of the runs, an even number of steps from its start. -/
def inAlternatingRuns (runs : List (Nat × Nat)) (c : Char) : Bool :=
  runs.any fun (first, last) ↦
    first ≤ c.toNat && c.toNat ≤ last && (c.toNat - first) % 2 == 0

/-- The image of a character under a mapping given by three tables. `expansions` lists the
characters with an image of several characters. An entry `(first, last, image)` of `shifts` moves
the run from `first` to `last` onto the run that starts at `image`, and one of `alternatingShifts`
does so with every second code point. A character in none of the tables is its own image. -/
def mapped (expansions : List (Nat × List Nat)) (shifts alternatingShifts : List (Nat × Nat × Nat))
    (c : Char) : List Char :=
  match expansions.lookup c.toNat with
  | some codes => codes.map Char.ofNat
  | none =>
    let shift := shifts.find? fun (first, last, _) ↦ first ≤ c.toNat && c.toNat ≤ last
    let alternatingShift := alternatingShifts.find? fun (first, last, _) ↦
      first ≤ c.toNat && c.toNat ≤ last && (c.toNat - first) % 2 == 0
    match shift.or alternatingShift with
    | some (first, _, image) => [Char.ofNat (image + (c.toNat - first))]
    | none => [c]

end ApiReference.Unicode
