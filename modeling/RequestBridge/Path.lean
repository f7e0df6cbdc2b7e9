/-! Normal route patterns.

A pattern is written in one way only: a slash, then the parts that remain once
slashes at both ends of each part are dropped, with one slash between them. Slashes
inside a part are text and stay. -/
namespace RequestBridge.Path

/-- The text without the slashes at its two ends. -/
def trim (cs : List Char) : List Char :=
  ((cs.dropWhile (· == '/')).reverse.dropWhile (· == '/')).reverse

/-- The normal pattern of a list of parts; parts made of slashes alone leave nothing. -/
def normal (parts : List (List Char)) : List Char :=
  '/' :: ['/'].intercalate ((parts.map trim).filter (!·.isEmpty))

/-- The pattern of a leaf below a base. -/
def join (base leaf : String) : String :=
  String.ofList (normal [base.toList, leaf.toList])

theorem toList_join (base leaf : String) :
    (join base leaf).toList = normal [base.toList, leaf.toList] := by
  simp [join]

end RequestBridge.Path
