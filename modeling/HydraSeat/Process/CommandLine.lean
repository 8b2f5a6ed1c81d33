import HydraSeat.Strings

/-!
# Command lines

A process is started with one line, in which the path of its program and its
arguments are quoted.  A started program takes the line apart again: blanks
separate arguments, quotes delimit them, and a run of backslashes counts only
before a quote.  The first token is the program and knows no backslashes.
-/

namespace HydraSeat.Process

open List

section Splitting

def blank (ch : UInt16) : Bool := ch == 0x20 || ch == 9

end Splitting

variable {argument path rest : WideString} {arguments : List WideString}

end HydraSeat.Process
