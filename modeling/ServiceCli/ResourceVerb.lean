import ServiceCli.Catalog
import ServiceCli.Text.Singular
import ServiceCli.Text.Words

/-!
The resource and the verb of a method. Both are read off the method's name, which is a verb, a noun
and possibly one more word, unless an annotation gives them.
-/
namespace ServiceCli

structure ResourceVerb where
  resource : String
  verb : String
deriving Repr, DecidableEq

/-- What is known about the resource and the verb of a method besides its name. Reading either may
fail. -/
structure Annotations (ε : Type) where
  resource : Except ε (Option String) := .ok none
  verb : Except ε (Option String) := .ok none

def Overrides.annotations {ε : Type} (o : Overrides) : Annotations ε :=
  ⟨.ok o.resource, .ok o.verb⟩

namespace ResourceVerb

/-- The words of a method's name in lower case. -/
def nameWords (name : String) : List String :=
  (Text.pieces (· == '_') (Text.lower (Text.snake name)).toList).map String.ofList

/-- Two words are a verb and a resource, and a third word only matters if it makes `get` a `list`.
Other numbers of words say nothing. The resource is put in the singular. -/
def ofWordsBy (singular : String → String) : List String → ResourceVerb
  | [verb, resource] => ⟨singular resource, verb⟩
  | [verb, resource, suffix] =>
    ⟨singular resource, if verb = "get" ∧ suffix = "list" then "list" else verb⟩
  | _ => ⟨"", ""⟩

def ofWords (words : List String) : ResourceVerb := ofWordsBy Text.singular words

/-- The resource and the verb in a method's name, both empty if there are none. -/
def ofNameBy (singular : String → String) (name : String) : ResourceVerb :=
  ofWordsBy singular (nameWords name)

def ofName (name : String) : ResourceVerb := ofNameBy Text.singular name

/-- The resource and the verb of a method, if neither is empty. Annotations go before the name. -/
def resolveBy {ε : Type} (singular : String → String) (name : String) (a : Annotations ε) :
    Except ε (Option ResourceVerb) := do
  let resource := (← a.resource).getD (ofNameBy singular name).resource
  let verb := (← a.verb).getD (ofNameBy singular name).verb
  return if resource = "" ∨ verb = "" then none else some ⟨resource, verb⟩

def resolve {ε : Type} (name : String) (a : Annotations ε) : Except ε (Option ResourceVerb) :=
  resolveBy Text.singular name a

end ResourceVerb

end ServiceCli
