import ServiceContract.Yaml.Printer

/-!
# Bundles of documents

Several documents in one text, each behind a separator line.
-/

namespace ServiceContract

/-- The line before every document. -/
def separator : List Char := "---\n".toList

def bundleText (documents : List Value) : List Char :=
  documents.flatMap fun v => separator ++ Yaml.documentText v

def bundle (documents : List Value) : String := String.ofList (bundleText documents)

end ServiceContract
