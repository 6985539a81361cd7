import Stencil.Value.Basic

/-!
# Built-in names

What names stand for that are given to every expression: functions, types, and a few other values.
The functions that blocks are made for can be called (`Function.length` and so on); all others can
be named, shown and compared, but a call of one fails.
-/

namespace Stencil

/-- The functions and constants that blocks are made for. -/
def principalNames : List (String × Value) := [
  ("len", .function .length), ("repr", .function .quoted), ("sum", .function .sum),
  ("min", .function .minimum), ("max", .function .maximum), ("sorted", .function .sorted),
  ("abs", .function .absolute), ("range", .type .range), ("list", .type .list),
  ("str", .type .text), ("int", .type .int), ("float", .type .float), ("bool", .type .bool),
  ("type", .type .type), ("True", .bool true), ("False", .bool false), ("None", .none),
  ("Ellipsis", .ellipsis)]

/-- The names of all other functions. -/
def otherFunctions : List String := [
  "__build_class__", "__import__", "aiter", "all", "anext", "any", "ascii", "bin", "breakpoint",
  "callable", "chr", "compile", "delattr", "dir", "divmod", "eval", "exec", "format", "getattr",
  "globals", "hasattr", "hash", "hex", "id", "input", "isinstance", "issubclass", "iter", "locals",
  "next", "oct", "open", "ord", "pow", "print", "round", "setattr", "vars"]

/-- The names of all other types. -/
def otherTypes : List String := [
  "bytearray", "bytes", "classmethod", "complex", "dict", "enumerate", "filter", "frozenset", "map",
  "memoryview", "object", "property", "reversed", "set", "slice", "staticmethod", "super", "tuple",
  "zip"]

/-- The names of the types of faults, of which not all can arise. -/
def faultTypes : List String := [
  "ArithmeticError", "AssertionError", "AttributeError", "BaseException", "BaseExceptionGroup",
  "BlockingIOError", "BrokenPipeError", "BufferError", "BytesWarning", "ChildProcessError",
  "ConnectionAbortedError", "ConnectionError", "ConnectionRefusedError", "ConnectionResetError",
  "DeprecationWarning", "EOFError", "EncodingWarning", "Exception", "ExceptionGroup",
  "FileExistsError", "FileNotFoundError", "FloatingPointError", "FutureWarning", "GeneratorExit",
  "ImportError", "ImportWarning", "IndentationError", "IndexError", "InterruptedError",
  "IsADirectoryError", "KeyError", "KeyboardInterrupt", "LookupError", "MemoryError",
  "ModuleNotFoundError", "NameError", "NotADirectoryError", "NotImplementedError", "OSError",
  "OverflowError", "PendingDeprecationWarning", "PermissionError", "ProcessLookupError",
  "RecursionError", "ReferenceError", "ResourceWarning", "RuntimeError", "RuntimeWarning",
  "StopAsyncIteration", "StopIteration", "SyntaxError", "SyntaxWarning", "SystemError",
  "SystemExit", "TabError", "TimeoutError", "TypeError", "UnboundLocalError",
  "UnicodeDecodeError", "UnicodeEncodeError", "UnicodeError", "UnicodeTranslateError",
  "UnicodeWarning", "UserWarning", "ValueError", "Warning", "ZeroDivisionError"]

/-- The values that are neither functions nor types, and second names of types. -/
def otherValues : List (String × Value) := [
  ("EnvironmentError", .type (.other "OSError")), ("IOError", .type (.other "OSError")),
  ("NotImplemented", .object 0 "NotImplementedType" "NotImplemented".toList false),
  ("exit", .function (.quit "exit")), ("quit", .function (.quit "quit")),
  ("help", .object 0 "_Helper"
    "Type help() for interactive help, or help(object) for help about object.".toList false),
  ("__name__", .text "builtins".toList), ("__package__", .text [])]

/-- What a built-in name stands for. -/
def builtinValue? (name : String) : Option Value :=
  principalNames.lookup name <|> otherValues.lookup name <|>
    if otherFunctions.contains name then some (.function (.other name))
    else if otherTypes.contains name || faultTypes.contains name then some (.type (.other name))
    else none

end Stencil
