import Venues.Settings

/-! # The definition of the index

The index of facilities has a fixed mapping: keywords to select by, analysed texts to search in, a
location, and inner documents for the courts. The settings decide its name and its size.
-/

namespace Venues.Index

/-! ## Mapping -/

def foldingAnalyzer : String := "folding"

def typed (type : String) : Value := .object [("type", .text type)]

def analysed : Fields := [("type", .text "text"), ("analyzer", .text foldingAnalyzer)]

/-- An analysed text that can be sorted by as a whole. -/
def sortableText : Value :=
  .object (analysed ++ [("fields", .object [("keyword",
    .object [("type", .text "keyword"), ("ignore_above", .int 256)])])])

def courtMapping : Value :=
  .object [("id", typed "keyword"), ("name", .object analysed), ("sport", typed "keyword"),
    ("surface", typed "keyword"), ("indoor", typed "boolean"), ("isActive", typed "boolean")]

/-- The mapping of the index. -/
def mapping : Value :=
  .object [("dynamic", .text "strict"), ("properties", .object [
    ("id", typed "keyword"), ("ownerId", typed "keyword"), ("slug", typed "keyword"),
    ("name", sortableText), ("address", .object analysed), ("description", .object analysed),
    ("ward", typed "keyword"), ("city", typed "keyword"), ("location", typed "geo_point"),
    ("isPublished", typed "boolean"), ("priceFrom", typed "integer"), ("rating", typed "float"),
    ("createdAt", typed "date"), ("updatedAt", typed "date"),
    ("courts", .object [("type", .text "nested"), ("properties", courtMapping)])])]

/-! ## Settings -/

def indexSettings (s : Settings) : Value :=
  .object [("number_of_shards", .int s.indexShards), ("number_of_replicas", .int s.indexReplicas),
    ("analysis", .object [("analyzer", .object [(foldingAnalyzer,
      .object [("type", .text "custom"), ("tokenizer", .text "standard"),
        ("filter", .texts ["lowercase", "asciifolding", "trim"])])])])]

def nameOf (s : Settings) : String := s.indexPrefix ++ "_facilities"

end Venues.Index
