import CodeAudit.Path

/-!
The supported languages: for each its name, the file extensions that select it, and the kinds of
syntax node that are its routines.
-/

namespace CodeAudit

structure Language where
  id : String
  extensions : List String
  routineKinds : List String
deriving DecidableEq, Repr

namespace Language

def scriptRoutineKinds : List String :=
  ["function_declaration", "generator_function_declaration", "function_expression",
    "arrow_function", "method_definition"]

def all : List Language :=
  [⟨"c", ["c", "h"], ["function_definition"]⟩,
    ⟨"cpp", ["cpp", "cc", "cxx", "hpp", "hh"], ["function_definition", "lambda_expression"]⟩,
    ⟨"go", ["go"], ["function_declaration", "method_declaration", "func_literal"]⟩,
    ⟨"java", ["java"], ["method_declaration", "constructor_declaration"]⟩,
    ⟨"javascript", ["js", "jsx", "mjs", "cjs"], scriptRoutineKinds⟩,
    ⟨"python", ["py"], ["function_definition"]⟩,
    ⟨"rust", ["rs"], ["function_item"]⟩,
    ⟨"scala", ["scala", "sc"], ["function_definition"]⟩,
    ⟨"swift", ["swift"], ["function_declaration"]⟩,
    ⟨"typescript", ["ts", "mts", "cts"], scriptRoutineKinds⟩,
    ⟨"tsx", ["tsx"], scriptRoutineKinds⟩]

def ofExtension? (extension : String) : Option Language :=
  all.find? fun language => language.extensions.contains extension

def ofPath? (path : String) : Option Language :=
  (Path.extension? path).bind ofExtension?

def ofId? (id : String) : Option Language :=
  all.find? fun language => language.id == id

def isRoutine (language : Language) (kind : String) : Bool :=
  language.routineKinds.contains kind

def describe (language : Language) : String :=
  let quoted := language.extensions.map fun extension => "\"" ++ extension ++ "\""
  "LanguageDef \x7b id: \"" ++ language.id ++ "\", extensions: [" ++ ", ".intercalate quoted ++
    "] \x7d"

end Language
end CodeAudit
