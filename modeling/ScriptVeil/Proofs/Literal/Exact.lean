import ScriptVeil.Proofs.Literal.Grammar

namespace ScriptVeil.Literal

variable {s t rest raw : Text} {us units : Units} {c : Char} {code : UInt32} {n : Nat}

end ScriptVeil.Literal
