/-!
# Token encodings

Every language model splits texts into the tokens of one of five encodings. An encoding has
special tokens, which stand for themselves.

## Main definitions

* `CodeCatalog.Encoding` — the encodings.
* `CodeCatalog.Encoding.ofModel?` — the encoding of a model.
* `CodeCatalog.Encoding.specialTokens` — the special tokens of an encoding.
-/

namespace CodeCatalog

/-- The encodings, from the oldest to the newest. -/
inductive Encoding where
  | r50k
  | p50k
  | p50kEdit
  | cl100k
  | o200k
deriving Repr, BEq, DecidableEq, Inhabited

namespace Encoding

/-- The models with names of their own. -/
def exactModels : List (Encoding × List String) := [
  (.o200k, ["gpt-4o-2024-05-13", "gpt-4o"]),
  (.cl100k, ["gpt-4-1106-preview", "gpt-4-32k", "gpt-4", "gpt-3.5-turbo",
    "text-embedding-ada-002", "text-embedding-3-small", "text-embedding-3-large"]),
  (.p50k, ["text-davinci-003", "text-davinci-002", "code-davinci-002", "code-davinci-001",
    "code-cushman-002", "code-cushman-001", "davinci-codex", "cushman-codex"]),
  (.p50kEdit, ["text-davinci-edit-001", "code-davinci-edit-001"]),
  (.r50k, ["text-davinci-001", "text-curie-001", "text-babbage-001", "text-ada-001", "davinci",
    "curie", "babbage", "ada", "text-similarity-davinci-001", "text-similarity-curie-001",
    "text-similarity-babbage-001", "text-similarity-ada-001", "text-search-davinci-doc-001",
    "text-search-curie-doc-001", "text-search-babbage-doc-001", "text-search-ada-doc-001",
    "code-search-babbage-code-001", "code-search-ada-code-001", "gpt2"])]

/-- The begins of the names of further models; the first that fits counts. -/
def modelFamilies : List (String × Encoding) := [
  ("gpt-4o-", .o200k), ("gpt-4-", .cl100k), ("gpt-3.5-turbo-", .cl100k),
  ("gpt-35-turbo-", .cl100k), ("ft:gpt-4", .cl100k), ("ft:gpt-3.5-turbo", .cl100k),
  ("ft:davinci-002", .cl100k), ("ft:babbage-002", .cl100k)]

/-- The encoding of a model. -/
def ofModel? (model : String) : Option Encoding :=
  match exactModels.find? (·.2.contains model) with
  | some (encoding, _) => some encoding
  | none => (modelFamilies.find? fun f => f.1.toList.isPrefixOf model.toList).map (·.2)

/-- The special tokens of all encodings. -/
def allSpecialTokens : List String :=
  ["<|endoftext|>", "<|fim_prefix|>", "<|fim_middle|>", "<|fim_suffix|>", "<|endofprompt|>"]

/-- The special tokens of an encoding. -/
def specialTokens : Encoding → List String
  | .r50k => ["<|endoftext|>"]
  | .p50k => ["<|endoftext|>"]
  | .p50kEdit => ["<|endoftext|>", "<|fim_prefix|>", "<|fim_middle|>", "<|fim_suffix|>"]
  | .cl100k => allSpecialTokens
  | .o200k => ["<|endoftext|>", "<|endofprompt|>"]

end Encoding

end CodeCatalog
