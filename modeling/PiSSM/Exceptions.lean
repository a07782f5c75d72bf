import PiSSM.Lib.PyRepr

/-!
The Python exceptions the modelled code raises and catches, with the text
`str(err)` gives for each of them.
-/

namespace PiSSM

inductive PyException where
  | dispatchError (message : String)
  | zeroDivisionError
  | pipelineError (message : String)
  | timeoutError (message : String)
  | keyError (key : String)
  | attributeError (message : String)
  | indexError (message : String)
  | valueError (message : String)
  /-- A `grpc.RpcError`, with its status code, its details and its rendering. -/
  | rpcError (code details message : String)
  | runtimeError (message : String)
  | typeError (message : String)
  | manifestError (message : String)
  /-- A `yaml.YAMLError`. -/
  | yamlError (message : String)
  | fileNotFoundError (message : String)
  /-- Any other `OSError`. -/
  | osError (message : String)
  deriving DecidableEq

/-- `str(err)`; a `KeyError` renders the `repr` of its key, in which the characters beyond
ASCII are taken to be printable. -/
def PyException.str : PyException → String
  | .dispatchError message => message
  | .zeroDivisionError => "integer division or modulo by zero"
  | .pipelineError message => message
  | .timeoutError message => message
  | .keyError key => Lib.quoted (fun _ => true) (key.toList.map Char.toNat)
  | .attributeError message => message
  | .indexError message => message
  | .valueError message => message
  | .rpcError _ _ message => message
  | .runtimeError message => message
  | .typeError message => message
  | .manifestError message => message
  | .yamlError message => message
  | .fileNotFoundError message => message
  | .osError message => message

end PiSSM
