import TypeCoverage.Decimal.Significant

/-!
# Coverage reports

A `Report` counts the covered and uncovered expressions of one file and lists the regions
that are not covered.  Its percentage is a decimal quotient to 28 digits, rounded half up,
unless the counts are beyond all limits of decimal numbers.  A `Summary` has the numbers that
are shown of a report: the tile of a status bar shows `Summary.text`, and its tooltip has the
counts in full, which have to be short enough to be written.
-/

namespace TypeCoverage

open Decimal

/-- A place in a file. -/
structure Position where
  line : Int
  column : Int
  deriving DecidableEq, Repr

/-- A part of a file, or of the source that it names. -/
structure Region where
  start : Position
  stop : Position
  source : Option String
  deriving DecidableEq, Repr

/-- The coverage of one file. -/
structure Report where
  covered : Nat
  uncovered : Nat
  regions : List Region
  deriving DecidableEq, Repr

namespace Report

/-- The number of expressions. -/
def total (r : Report) : Nat := r.covered + r.uncovered

/-- The limits of the numbers behind a percentage. -/
def context : Context := { precision := 28, least := -999999, greatest := 999999 }

/-- The quotient `100 * covered / total`, where the dividend and the quotient are each taken
within the limits; none if one of them is too large. -/
def ratio? (r : Report) : Option Scaled :=
  (context.round? (r.covered * 100) 1).bind fun dividend =>
    context.round? dividend.numerator (dividend.denominator * r.total)

/-- The covered share in percent, rounded half up; zero if nothing was counted. -/
def percent? (r : Report) : Option Nat :=
  if r.total = 0 then some 0 else r.ratio?.map Scaled.round

/-- The most digits that a number written for display may have. -/
def digitLimit : Nat := 4300

end Report

/-- The numbers that are shown of a report. -/
structure Summary where
  percent : Nat
  covered : Nat
  total : Nat
  deriving DecidableEq, Repr

/-- The summary of a report, unless the numbers behind the percentage are too large. -/
def Report.summary? (r : Report) : Option Summary :=
  r.percent?.map fun percent => ⟨percent, r.covered, r.total⟩

namespace Summary

/-- The text of the tile. -/
def text (s : Summary) : String :=
  "Coverage: " ++ numeral s.percent ++ "%"

/-- The first line of the tooltip, unless a count has too many digits to be written. -/
def tooltip? (s : Summary) : Option String :=
  if Report.digitLimit < digitCount s.total then none
  else some ("Covered " ++ numeral s.percent ++ "% (" ++ numeral s.covered ++ " of "
    ++ numeral s.total ++ " expressions)")

end Summary

end TypeCoverage
