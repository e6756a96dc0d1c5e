import Std.Data.HashMap
import TargetHelp.Platform.Functions
import TargetHelp.Platform.Names
import TargetHelp.Platform.Sayings
import TargetHelp.Platform.Types
import TargetHelp.Thing.Listing

/-!
# Modules of the platform

The modules that come with the platform. No parser is loaded from them by their names, but names
lead to them from other modules. They are listed in three rounds, so that what a module has from
another one stands behind that: first types, then functions, then everything else.
-/

set_option autoImplicit false
set_option relaxedAutoImplicit false

namespace TargetHelp.Platform

/-- The replies of callables by their paths. -/
def byPath : Std.HashMap Text Reply :=
  .ofList (sayings.flatMap fun (reply, paths) =>
    (Listing.words paths).map fun path => (path, reply))

def replies : Listing.Replies := fun home path => byPath[ValueType.keyOf home path]?

/-- The built-in types with the modules of the platform. -/
def catalogue : Catalogue :=
  Listing.extend .ofTypes replies (types ++ functions ++ names)

end TargetHelp.Platform
