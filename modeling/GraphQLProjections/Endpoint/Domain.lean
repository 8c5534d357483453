import GraphQLProjections.Endpoint.Domain.Direction
import GraphQLProjections.Endpoint.Domain.Label

/-! Domain names in the form in which they are looked up: mapped, composed, each label sound by
itself and in its direction, and written in ASCII. -/
namespace GraphQLProjections.Domain

def labels? (cs : List Char) : Option (List (List Char)) :=
  (cs.mapM mapped?).map fun parts => (Text.composed parts.flatten).splitOn '.'

def ascii? (cs : List Char) : Option (List Char) := do
  let labels ← labels? cs
  let texts ← labels.mapM Label.text?
  if texts.all Label.isSound && Direction.allFit texts then
    some (['.'].intercalate (labels.map Label.encoded))
  else none

end GraphQLProjections.Domain
