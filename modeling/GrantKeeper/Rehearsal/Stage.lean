import GrantKeeper.Rehearsal.World

/-! Stages: a world with named caches, grants and providers. A cache can be shared by several
providers, so caches have places that names and providers point to. -/
namespace GrantKeeper.Rehearsal

structure Stage where
  world : World := {}
  /-- The credentials that caches hold, by place. -/
  held : List Credential := []
  caches : StringMap Nat := ∅
  grants : StringMap Grant := ∅
  /-- The grant of a provider and the place of its cache. -/
  providers : StringMap (Grant × Nat) := ∅

abbrev OnStage := StateM Stage

def inWorld (act : InWorld α) : OnStage α := do
  let stage ← get
  let (value, world) := act.run stage.world
  set { stage with world }
  return value

def placeCache (credential : Credential) : OnStage Nat := do
  let stage ← get
  set { stage with held := stage.held ++ [credential] }
  return stage.held.length

def newCache (name : String) (credential : Credential) : OnStage Unit := do
  let place ← placeCache credential
  modify fun stage => { stage with caches := stage.caches.insert name place }

/-- Something done with the cache of a name; nothing if there is none. -/
def withCache (name : String) (act : StateT Credential InWorld α) : OnStage (Option α) := do
  let stage ← get
  match stage.caches.get? name with
  | none => return none
  | some place =>
    match stage.held[place]? with
    | none => return none
    | some credential =>
      let (value, credential) ← inWorld (act.run credential)
      modify fun stage => { stage with held := stage.held.set place credential }
      return some value

def newGrant (name : String) (grant : Grant) : OnStage Unit :=
  modify fun stage => { stage with grants := stage.grants.insert name grant }

def withGrant (name : String) (act : StateT Grant InWorld α) : OnStage (Option α) := do
  match (← get).grants.get? name with
  | none => return none
  | some grant =>
    let (value, grant) ← inWorld (act.run grant)
    newGrant name grant
    return some value

def newProvider (name : String) (holding : TokenProvider.Holding) : OnStage Unit := do
  let place ← placeCache holding.credential
  modify fun stage => { stage with providers := stage.providers.insert name (holding.grant, place) }

/-- A new provider from the grant of its name, which is taken away, and the cache of another. -/
def joinProvider (name cache : String) : OnStage (Option Unit) := do
  let stage ← get
  match stage.grants.get? name with
  | none => return none
  | some grant =>
    set { stage with grants := stage.grants.erase name }
    match stage.caches.get? cache with
    | none => return none
    | some place =>
      modify fun stage => { stage with providers := stage.providers.insert name (grant, place) }
      return some ()

def withProvider (name : String) (act : StateT TokenProvider.Holding InWorld α) :
    OnStage (Option α) := do
  let stage ← get
  match stage.providers.get? name with
  | none => return none
  | some (grant, place) =>
    match stage.held[place]? with
    | none => return none
    | some credential =>
      let (value, holding) ← inWorld (act.run ⟨grant, credential⟩)
      modify fun stage => { stage with
        held := stage.held.set place holding.credential
        providers := stage.providers.insert name (holding.grant, place) }
      return some value

end GrantKeeper.Rehearsal
