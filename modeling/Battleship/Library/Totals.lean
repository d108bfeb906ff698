import Battleship.Library.Table
import Mathlib.Algebra.BigOperators.Group.Finset.Piecewise

/-! Totals over the rows of a table, as sums over any set that has all keys, where what two
keys exchange between them leaves the total as it is. -/

namespace Totals

open Finset

variable {Key Value Amount : Type} [DecidableEq Key] [AddCommGroup Amount]

end Totals
