/-!
What a search is rendered for, and how. Every setting has a default.
-/

namespace SearchQuery

inductive Backend where
  | azure
  | solr
deriving DecidableEq, Repr

namespace Backend

def all : List Backend :=
  [.azure, .solr]

def name : Backend → String
  | .azure => "azure"
  | .solr => "solr"

def ofName? (name : String) : Option Backend :=
  all.find? fun backend => backend.name = name

end Backend

structure GeneralSettings where
  backend : Backend := .azure
  caseSensitive : Bool := false
deriving DecidableEq, Repr

structure AzureSettings where
  queryType : String := "full"
  searchMode : String := "all"
deriving DecidableEq, Repr

structure SolrSettings where
  defaultField : String := "_text_"
  defaultOperator : String := "OR"
deriving DecidableEq, Repr

structure Settings where
  general : GeneralSettings := {}
  azure : AzureSettings := {}
  solr : SolrSettings := {}
deriving DecidableEq, Repr

end SearchQuery
