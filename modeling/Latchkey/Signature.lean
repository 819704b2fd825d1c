import Latchkey.Formatter

namespace Latchkey

/-- A function: the module that it lives in, and its name there. -/
structure FuncId where
  home : String
  name : String
deriving Repr, DecidableEq

/-- The function in one text. -/
def FuncId.text (f : FuncId) : String := f.home ++ ":" ++ f.name

/-- A function and the names of its parameters, in order. -/
structure Signature where
  id : FuncId
  params : List String
deriving Repr, DecidableEq

/-- The arguments of one call. -/
structure CallArgs where
  positional : List Json
  named : Values

/-- The arguments by parameter name. Positional arguments are taken in the order of the parameters,
surplus ones are left out, and named arguments win. -/
def CallArgs.bind (args : CallArgs) (sig : Signature) : Values :=
  Named.override (Named.ofList (sig.params.zip args.positional)) args.named

namespace Signature

/-- The text of the template of a function with these parameters in its keys: module and name taken
literally, then each parameter's name and a field for it. -/
def templateText (id : FuncId) (params : List String) : String :=
  escape id.home ++ ":" ++ escape id.name ++
    String.join (params.map fun p => ":" ++ p ++ ":\x7b" ++ p ++ "\x7d")

/-- The template of a function; only the listed parameters take part, all if there is no list. -/
def template (sig : Signature) (listed : Option (List String)) : Except KeyError Template :=
  Template.parse (templateText sig.id (listed.getD sig.params))

/-- The key of one call. -/
def key (sig : Signature) (f : Formatter) (t : Template) (args : CallArgs) :
    Except KeyError String :=
  f.format t (args.bind sig)

end Signature
end Latchkey
