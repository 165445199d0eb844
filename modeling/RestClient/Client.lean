import RestClient.Transport

/-!
# Clients

A client has a base address whose path can be extended, and options for all its requests. It is
made by a builder, from a context of options, or from an address alone; all ways go through
`ClientBuilder.build`, which refuses other base addresses.
-/

namespace RestClient

/-- A client: the base address of all its requests, and the options that stand below those of every
call. -/
structure Client where
  base : Url
  defaults : Options
  deriving Repr

/-- A client that is being set up. Its base address is any address; whether requests can be made
from it is asked when the client is built. -/
structure ClientBuilder where
  base : Url
  defaults : Options := {}
  deriving Repr

namespace ClientBuilder

/-- Sets a header of all requests, in place of the values that it had. A name or a value that is
refused is an error at once, and the builder is lost with it. -/
def defaultHeader (b : ClientBuilder) (name value : String) : Except ConfigError ClientBuilder :=
  (b.defaults.withHeader name value).map fun o => { b with defaults := o }

/-- Sets the timeout of all requests. -/
def timeout (b : ClientBuilder) (ms : Nat) : ClientBuilder :=
  { b with defaults := b.defaults.withTimeout ms }

/-- **The client**, if the path of its base address can be extended. An address such as that of a
mail box has no path of segments, and is refused with its text. -/
def build (b : ClientBuilder) : Except ConfigError Client :=
  if b.base.isHierarchical then .ok ⟨b.base, b.defaults⟩
  else .error (.notHierarchical b.base.text)

end ClientBuilder

/-- **A step in setting up a client.** A header that is refused ends the setting up, while a timeout
is always taken, the last one for good. -/
inductive ClientStep where
  | defaultHeader (name value : String)
  | timeout (ms : Nat)
  deriving DecidableEq, Repr

namespace ClientBuilder

/-- One step. -/
def step (b : ClientBuilder) : ClientStep → Except ConfigError ClientBuilder
  | .defaultHeader name value => b.defaultHeader name value
  | .timeout ms => .ok (b.timeout ms)

/-- **Steps in order; the first that fails decides**, and those behind it are not looked at. -/
def steps (b : ClientBuilder) (ss : List ClientStep) : Except ConfigError ClientBuilder :=
  ss.foldlM step b

end ClientBuilder

namespace Client

/-- The address of a text, or why the text is no address. -/
def parseBase (base : String) : Except ConfigError Url := (Url.parse base).mapError .invalidUrl

/-- A client without options of its own, which goes through the builder as every other does. -/
def new (base : Url) : Except ConfigError Client := ClientBuilder.build { base := base }

/-- A client without options of its own, from the text of its address. -/
def parse (base : String) : Except ConfigError Client := parseBase base >>= new

/-- A client with the options of a context, which become its own as they are. -/
def withContext (base : Url) (options : Options) : Except ConfigError Client :=
  ClientBuilder.build ⟨base, options⟩

end Client
end RestClient
