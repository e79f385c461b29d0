import Stencil.Cache.Store

/-! The render cache. A render is looked for under a key made from the name of the template and the
fingerprint of its data; only what is not found is computed, and only what is not empty is kept. -/
namespace Stencil.Cache

/-- A store, the space that its keys are in, and how long a render is kept if nothing else is said. -/
structure Renders where
  store : Store
  space : String := "template"
  lifetime : Option Lifetime := some (.whole 3600)
  deriving Repr

namespace Renders

/-- Logs what the cache does. -/
def tell (message : String) : Act Unit :=
  Act.log ⟨.debug, "modx.core.cache.template_cache", message⟩

/-- Keeps an outcome of computing, if it is a text that is not empty. -/
def keep (c : Renders) (key : String) (lifetime : Option Lifetime) :
    Except Error String → Act (Except Error String × Renders)
  | .error e => return (.error e, c)
  | .ok value => do
    if value = "" then return (.ok value, c)
    else
      match ← Act.attempt (c.store.put key value (lifetime.or c.lifetime)) with
      | .ok store => return (.ok value, { c with store })
      | .error e => return (.error e, c)

/-- The render of a template: the one that is kept, or else the one that `compute` gives, which is kept
for `lifetime`. -/
def render (c : Renders) (template fingerprint : String) (compute : Act String)
    (lifetime : Option Lifetime) : Act (Except Error String × Renders) := do
  let key := renderKey c.space template fingerprint
  let (found, store) ← c.store.read key
  let c := { c with store }
  match found with
  | some value =>
    tell s!"Cache hit for {key}"
    return (.ok value, c)
  | none =>
    tell s!"Cache miss for {key}"
    c.keep key lifetime (← Act.attempt compute)

/-- Forgets the renders of one template, or all of them. -/
def clear (c : Renders) (template : Option String) : Act (Bool × Renders) := do
  match template with
  | none =>
    tell "Clearing whole render cache"
    return (true, { c with store := ← c.store.clear })
  | some name =>
    tell s!"Clearing render cache for template {name}"
    let (found, store) ← c.store.removeLike (templatePrefix c.space name)
    return (found, { c with store })

end Renders

end Stencil.Cache
