/-! How deep an operation goes. What follows parts into their parts calls itself once or several times a level,
and only so many calls may be open at once; past them it is given up. How many are open when an operation begins
is a matter of who asks for it: every limit of this kind assumes what they are where a page is rendered, a
configuration is read or a command is run on request, with nothing else below it, and says so by `levels`. -/
namespace Stencil.Recursion

/-- The most calls that may be open. -/
def callLimit : Nat := 1000

/-- The levels that an operation may go through which begins with `before` open calls and opens `each` calls a
level. -/
def levels (before each : Nat) : Nat := (callLimit - before) / each

end Stencil.Recursion
