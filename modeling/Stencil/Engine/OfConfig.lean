import Stencil.Config.Load
import Stencil.Config.Settings
import Stencil.Engine

/-! Engines as the configuration of a project describes them. -/
namespace Stencil

open Config (Settings)

/-- The render cache that settings describe, unless they turn it off. -/
def Cache.Renders.ofSettings (s : Settings) : Except Error (Option Cache.Renders) := do
  if ← s.cacheEnabled then
    let store ← Cache.Store.ofName (← s.cacheStore) (some (← s.cacheDirectory))
    let space ← s.cacheNamespace
    let lifetime ← s.cacheTtl
    return some { store, space, lifetime := some (.whole lifetime) }
  else return none

/-- The locator that settings describe; its directories must be there or may be made. -/
def Template.Locator.ofSettings (s : Settings) : Act Template.Locator := do
  let paths ← Act.ofExcept s.paths
  let create ← Act.ofExcept s.createMissing
  let extension ← Act.ofExcept s.extension
  let layoutsDir ← Act.ofExcept s.layoutsDir
  let componentsDir ← Act.ofExcept s.componentsDir
  let empty : Template.Locator := { paths := [], extension, layoutsDir, componentsDir }
  empty.addPaths s.root create paths

namespace Engine

/-- The engine that settings describe. -/
def ofSettings (s : Settings) : Act Engine := do
  let locator ← Template.Locator.ofSettings s
  let cache ← Act.ofExcept (Cache.Renders.ofSettings s)
  let passes ← Act.ofExcept s.maxIterations
  let layout ← Act.ofExcept s.defaultLayout
  let dumpDir ← Act.ofExcept s.dumpDir
  let limit ← Act.ofExcept (limitOf passes)
  return { locator, limit, cache, layout, dumpDir }

/-- The engine of a project; `overrides` win over its configuration. -/
def ofConfig (root : Option Path) (overrides : Mapping) : Act Engine := do
  let place ← Config.rootOf root
  let loaded ← Config.load (some place)
  let config := mergeOver loaded.config overrides
  if !overrides.isEmpty then Act.ofExcept (Config.validate (.dict config))
  ofSettings (← Config.settingsOf place config)

end Engine

end Stencil
