namespace ScriptVeil.Script

inductive BinaryOp where
  | equal | notEqual | strictEqual | strictNotEqual
  | less | lessEqual | greater | greaterEqual
  | shiftLeft | shiftRight | shiftRightZero
  | add | subtract | multiply | divide | remainder | power
  | bitOr | bitXor | bitAnd
  | or | and | coalesce
  | inside | instanceOf
deriving DecidableEq, Repr

namespace BinaryOp

/-- A higher level binds more tightly. -/
def precedence : BinaryOp → Nat
  | or | coalesce => 1
  | and => 2
  | bitOr => 3
  | bitXor => 4
  | bitAnd => 5
  | equal | notEqual | strictEqual | strictNotEqual => 6
  | less | lessEqual | greater | greaterEqual | inside | instanceOf => 7
  | shiftLeft | shiftRight | shiftRightZero => 8
  | add | subtract => 9
  | multiply | divide | remainder => 10
  | power => 11

def text : BinaryOp → String
  | equal => "=="
  | notEqual => "!="
  | strictEqual => "==="
  | strictNotEqual => "!=="
  | less => "<"
  | lessEqual => "<="
  | greater => ">"
  | greaterEqual => ">="
  | shiftLeft => "<<"
  | shiftRight => ">>"
  | shiftRightZero => ">>>"
  | add => "+"
  | subtract => "-"
  | multiply => "*"
  | divide => "/"
  | remainder => "%"
  | power => "**"
  | bitOr => "|"
  | bitXor => "^"
  | bitAnd => "&"
  | or => "||"
  | and => "&&"
  | coalesce => "??"
  | inside => "in"
  | instanceOf => "instanceof"

end BinaryOp

end ScriptVeil.Script
