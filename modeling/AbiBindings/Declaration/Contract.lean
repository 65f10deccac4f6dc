import AbiBindings.Contract
import AbiBindings.Declaration.Import
import AbiBindings.Declaration.Layout
import AbiBindings.Declaration.Structs

/-!
# The declaration file of a contract

A file declares the structs of a contract, a map of its functions, its events and a map of them,
its errors and a map of them, and the contract itself, each in a section of its own.  Sections
without statements are left out, and imports come first.
-/

namespace AbiBindings

/-! ## Options -/

/-- What the declarations look like. -/
structure DeclarationOptions where
  typing : Typing
  /-- All functions and events have an entry under their signature, not only overloaded ones. -/
  alwaysBySignature : Bool
  /-- The contract's type has a field with the contract's name. -/
  tellsContractName : Bool

/-- Entries that are found under their signature: all, or the overloaded ones. -/
def DeclarationOptions.bySignature {α : Type} (o : DeclarationOptions) (name : α → String)
    (items : List α) : List α :=
  items.filter fun i => o.alwaysBySignature || 1 < (items.map name).count (name i)

/-! ## Functions -/

/-- Name of the map of a contract's functions. -/
def functionsName (c : Contract) : String := c.name ++ "Functions"

/-- Name of the map of a contract's events. -/
def eventsName (c : Contract) : String := c.name ++ "Events"

/-- Name of the map of a contract's errors. -/
def errorsName (c : Contract) : String := c.name ++ "Errors"

/-- A member whose type is a quoted text. -/
def literalMember (key value : String) : String × AliasBody := (key, .type (doubleQuoted value))

/-- The entry of a function; a failure is placed in the function. -/
def functionEntry (y : Typing) (f : ContractFunction) : Checked (String × AliasBody) :=
  Checked.within f.name do
    let inputs ← y.argumentsText f.inputs
    let outputs ← y.resultText f.outputs
    return (f.identifier, .block [literalMember "signature" f.signature,
      literalMember "selector" f.selector, literalMember "stateMutability" f.stateMutability,
      ("inputs", .type inputs), ("outputs", .type outputs)])

/-- The entry of a function under its signature. -/
def functionReference (c : Contract) (f : ContractFunction) : String × AliasBody :=
  (doubleQuoted f.signature, .type (functionsName c ++ "[" ++ doubleQuoted f.identifier ++ "]"))

/-- The map of functions. -/
def functionsAlias (o : DeclarationOptions) (c : Contract) : Checked TypeAlias := do
  let entries ← c.functions.mapM (functionEntry o.typing)
  let references := (o.bySignature ContractFunction.name c.functions).map (functionReference c)
  return ⟨functionsName c, .block (entries ++ references)⟩

/-! ## Events -/

/-- Name of the alias of an event. -/
def eventName (e : ContractEvent) : String := e.identifier ++ "Event"

/-- What an event can be searched by. -/
def filterText (y : Typing) (inputs : List EventInput) : Checked String := do
  let items ← (inputs.zipIdx.filter (·.1.indexed)).mapM fun (i, index) => do
    let t ← y.typeText .input i.type
    return memberText (Typing.argumentLabel i.name index ++ "?") (t ++ " | null")
  return bracketed items

/-- The alias of an event; a failure is placed in the event. -/
def eventAlias (y : Typing) (e : ContractEvent) : Checked TypeAlias :=
  Checked.within e.name do
    let filter ← filterText y e.inputs
    let args ← y.tupleText .output (e.inputs.map EventInput.component)
    return ⟨eventName e, .block [literalMember "signature" e.signature,
      literalMember "topic" e.topic, ("anonymous", .type (toString e.anonymous)),
      ("args", .type args), ("filter", .type filter)]⟩

/-- The map of events. -/
def eventsAlias (o : DeclarationOptions) (c : Contract) : TypeAlias :=
  let entries := c.events.map fun e => (e.identifier, AliasBody.type (eventName e))
  let references := (o.bySignature ContractEvent.name c.events).map fun e =>
    (doubleQuoted e.signature, AliasBody.type (eventName e))
  ⟨eventsName c, .block (entries ++ references)⟩

/-! ## Errors -/

/-- Name of the alias of an error. -/
def errorName (e : ContractError) : String := e.identifier ++ "Error"

/-- The alias of an error; a failure is placed in the error. -/
def errorAlias (y : Typing) (e : ContractError) : Checked TypeAlias :=
  Checked.within e.name do
    let args ← y.tupleText .output e.inputs
    return ⟨errorName e, .block [literalMember "signature" e.signature,
      literalMember "selector" e.selector, ("args", .type args)]⟩

/-- The map of errors. -/
def errorsAlias (c : Contract) : TypeAlias :=
  ⟨errorsName c, .block (c.errors.map fun e => (e.identifier, .type (errorName e)))⟩

/-! ## The contract -/

/-- How a contract is deployed: how its constructor changes state, and what it takes. -/
def deployment (y : Typing) (c : Contract) : Checked (String × String) :=
  match c.constructor? with
  | none => .ok ("nonpayable", "[]")
  | some k => (Checked.within "constructor" (y.argumentsText k.inputs)).map (k.stateMutability, ·)

/-- The alias of a contract. -/
def contractAlias (o : DeclarationOptions) (c : Contract) : Checked TypeAlias := do
  let (mutability, inputs) ← deployment o.typing c
  let name := if o.tellsContractName then [literalMember "contractName" c.name] else []
  return ⟨c.name, .block (name ++ [
    ("deploy", .block [literalMember "stateMutability" mutability, ("inputs", .type inputs)]),
    ("functions", .type (functionsName c)), ("events", .type (eventsName c)),
    ("errors", .type (errorsName c)), ("fallback", .type (toString c.hasFallback)),
    ("receive", .type (toString c.hasReceive))])⟩

/-! ## Files -/

/-- The sections of a contract's declarations, without imports. -/
def declarationSections (o : DeclarationOptions) (c : Contract) :
    Checked (List (List Statement)) := do
  let structs ← structStatements o.typing c.structs
  let functions ← functionsAlias o c
  let events ← c.events.mapM (eventAlias o.typing)
  let errors ← c.errors.mapM (errorAlias o.typing)
  let contract ← contractAlias o c
  return [structs, [.alias functions], events.map .alias, [.alias (eventsAlias o c)],
    errors.map .alias, [.alias (errorsAlias c)], [.alias contract]].filter (!·.isEmpty)

/-- The texts of a file's sections, imports included. -/
def fileSections (imports : List TypeImport) (body : List String) : List String :=
  match importLines imports body with
  | [] => body
  | lines => "\n".intercalate lines :: body

/-- The texts of the sections of a contract's file; a failure is placed in the contract. -/
def contractSections (o : DeclarationOptions) (c : Contract) : Checked (List String) :=
  Checked.within c.name do
    let sections ← declarationSections o c
    return fileSections o.typing.names.imports (sections.map sectionText)

/-- The declaration file of a contract. -/
def contractFile (o : DeclarationOptions) (c : Contract) : Checked String := do
  let sections ← contractSections o c
  Checked.within c.name (fillLayout contractLayout (some sections))

end AbiBindings
