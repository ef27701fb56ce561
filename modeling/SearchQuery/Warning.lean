import SearchQuery.Text.Quoted

/-!
What was left out or replaced without an error, and the message for each.
-/

namespace SearchQuery

inductive Warning where
  | documentOrder (field : String)
  | replacedFilter (field previous : String)
  | noBounds (field : String)
  | noTextFields (text : String)
  | directionAlone
deriving DecidableEq, Repr

def Warning.message : Warning → String
  | .documentOrder field => "azure has no document-order sort; dropping sort on " ++ field
  | .replacedFilter field previous =>
    "only one comparison filter is supported; " ++ field ++ " replaces " ++ previous
  | .noBounds field => "range filter on " ++ field ++ " has no bounds; ignoring"
  | .noTextFields text =>
    "text query " ++ Text.quoted text ++ " ignored: no text fields configured"
  | .directionAlone => "sort_order given without a sort field; ignoring"

end SearchQuery
