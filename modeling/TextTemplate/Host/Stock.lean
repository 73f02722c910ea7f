import TextTemplate.Eval.Basic
import TextTemplate.Text.Case

/-!
A stock of small host functions. They take any arguments.
-/

namespace TextTemplate.Host

/-- The sum of the whole numbers among the arguments. -/
def total : List Host → Int
  | [] => 0
  | number (.int i) :: rest => i + total rest
  | _ :: rest => total rest

/-- What a stock function of the given name does. -/
def stock : HostLibrary := fun name args keywords =>
  match name with
  | "echo" => .answer (ofFields [("args", list args), ("kwargs", ofFields keywords)])
  | "first" => .answer (args.head?.getD null)
  | "count" => .answer (number (.int (args.length + keywords.length)))
  | "shout" =>
    match args with
    | text s :: _ => .answer (text (Text.upper s ++ "!"))
    | _ => .answer (text "?")
  | "total" => .answer (number (.int (total args)))
  | "truth" => .answer (bool (args.head?.any truthy))
  | "pair" => .answer (tuple (args.take 2))
  | "call" =>
    match args with
    | function f :: rest => .call f rest .answer
    | _ => .answer null
  | "maker" => .answer (function (.named "first"))
  | "fail" => .fail "host failure"
  | "bad" => .answer (foreign .object)
  | "badkey" => .answer (map [(number (.int 1), text "x")])
  | _ => .answer null

end TextTemplate.Host
