import TokenIndexer.Message

/-! The package that registers a token. -/

namespace TokenIndexer.Replace

/-- The text after its first `skip` characters with every occurrence replaced. -/
def after (pattern replacement : List Char) : Nat → List Char → List Char
  | _, [] => []
  | skip + 1, _ :: cs => after pattern replacement skip cs
  | 0, c :: cs =>
    if pattern <+: c :: cs then replacement ++ after pattern replacement (pattern.length - 1) cs
    else c :: after pattern replacement 0 cs

def all (pattern replacement text : List Char) : List Char := after pattern replacement 0 text

end TokenIndexer.Replace

namespace TokenIndexer.Registration

def fileName : String := "register.gno"

def packageName : String := "token_register"

def placeholder : String := "\x7b\x7bPKG_PATH\x7d\x7d"

def templateLines : List String :=
  ["package token_register",
    "",
    "import (",
    "\ttoken \"\x7b\x7bPKG_PATH\x7d\x7d\"",
    "",
    "\tpusers \"gno.land/p/demo/users\"",
    "",
    "\tpl \"gno.land/r/demo/pool\"",
    "\trr \"gno.land/r/demo/router\"",
    "\tsr \"gno.land/r/demo/staker\"",
    ")",
    "",
    "type NewToken struct\x7b\x7d",
    "",
    "func (NewToken) Transfer() func(to pusers.AddressOrName, amount uint64) \x7b",
    "\treturn token.Transfer",
    "\x7d",
    "",
    "func (NewToken) TransferFrom() func(from, to pusers.AddressOrName, amount uint64) \x7b",
    "\treturn token.TransferFrom",
    "\x7d",
    "",
    "func (NewToken) BalanceOf() func(owner pusers.AddressOrName) uint64 \x7b",
    "\treturn token.BalanceOf",
    "\x7d",
    "",
    "func (NewToken) Approve() func(spender pusers.AddressOrName, amount uint64) \x7b",
    "\treturn token.Approve",
    "\x7d",
    "",
    "func init() \x7b",
    "\tpl.RegisterGRC20Interface(\"\x7b\x7bPKG_PATH\x7d\x7d\", NewToken\x7b\x7d)",
    "\trr.RegisterGRC20Interface(\"\x7b\x7bPKG_PATH\x7d\x7d\", NewToken\x7b\x7d)",
    "\tsr.RegisterGRC20Interface(\"\x7b\x7bPKG_PATH\x7d\x7d\", NewToken\x7b\x7d)",
    "\x7d"]

def template : List Char := templateLines.flatMap fun line => line.toList ++ ['\n']

def source (packagePath : String) : String :=
  String.ofList (Replace.all placeholder.toList packagePath.toList template)

def pathOf (packagePath suffix : String) : String := packagePath ++ suffix

def package (packagePath suffix : String) : MemPackage :=
  ⟨packageName, pathOf packagePath suffix, [⟨fileName, source packagePath⟩]⟩

end TokenIndexer.Registration
