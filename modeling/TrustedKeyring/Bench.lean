import TrustedKeyring.Deployment
import TrustedKeyring.KeyStore.Check

/-!
# Benches

A bench holds any number of key services and signature primitives.  A scripted one answers from a
list; the others are backed by key stores.
-/

namespace TrustedKeyring

/-- Answers that are used once each, in order; the last one is used again and again. -/
structure Script (α : Type) where
  upcoming : List α
  last : α

namespace Script

def ofList {α : Type} (answer : α) : List α → Script α
  | [] => ⟨[], answer⟩
  | a :: answers => ⟨(a :: answers).dropLast, (a :: answers).getLast (List.cons_ne_nil a answers)⟩

def take {α : Type} (script : Script α) : α × Script α :=
  match script.upcoming with
  | [] => (script.last, script)
  | a :: upcoming => (a, { script with upcoming := upcoming })

end Script

structure ScriptedService where
  loads : Script (Outcome Errno Handle) := ⟨[], .ok ⟨2⟩⟩
  searches : Script (Outcome Errno Handle) := ⟨[], .ok ⟨40⟩⟩
  additions : Script (Outcome Errno Handle) := ⟨[], .ok ⟨500⟩⟩

def ScriptedService.service : KeyService ScriptedService where
  openKeyring _ scripts :=
    let (answer, loads) := scripts.loads.take
    (answer, { scripts with loads := loads })
  search _ _ _ _ scripts :=
    let (answer, searches) := scripts.searches.take
    (answer, { scripts with searches := searches })
  release _ scripts := scripts
  add _ _ _ scripts :=
    let (answer, additions) := scripts.additions.take
    (answer, { scripts with additions := additions })

inductive BenchService where
  | scripted (scripts : ScriptedService)
  | store (store : KeyStore)

inductive BenchPrimitive where
  | scripted (answers : Script (Outcome Empty Int32))
  | overStore (service : ServiceId)

structure Bench where
  services : List BenchService := []
  primitives : List BenchPrimitive := []

namespace Bench

def addService (bench : Bench) (service : BenchService) : Bench :=
  { bench with services := bench.services ++ [service] }

def addPrimitive (bench : Bench) (primitive : BenchPrimitive) : Bench :=
  { bench with primitives := bench.primitives ++ [primitive] }

def setService (bench : Bench) (id : ServiceId) (service : BenchService) : Bench :=
  { bench with services := bench.services.set id service }

def store (bench : Bench) (id : ServiceId) : KeyStore :=
  match bench.services[id]? with
  | some (.store store) => store
  | _ => {}

def setStore (bench : Bench) (id : ServiceId) (store : KeyStore) : Bench :=
  bench.setService id (.store store)

def scripts (bench : Bench) (id : ServiceId) : ScriptedService :=
  match bench.services[id]? with
  | some (.scripted scripts) => scripts
  | _ => {}

def call {α : Type} (bench : Bench) (id : ServiceId)
    (onScripts : ScriptedService → α × ScriptedService) (onStore : KeyStore → α × KeyStore) :
    α × Bench :=
  match bench.services[id]? with
  | some (.store store) =>
    let (answer, store) := onStore store
    (answer, bench.setService id (.store store))
  | _ =>
    let (answer, scripts) := onScripts (bench.scripts id)
    (answer, bench.setService id (.scripted scripts))

def service (crypto : Crypto) (id : ServiceId) : KeyService Bench where
  openKeyring name bench :=
    bench.call id (ScriptedService.service.openKeyring name)
      ((KeyStore.service crypto).openKeyring name)
  search keyring kind description byEnd bench :=
    bench.call id (ScriptedService.service.search keyring kind description byEnd)
      ((KeyStore.service crypto).search keyring kind description byEnd)
  release key bench :=
    (bench.call id (fun scripts => ((), ScriptedService.service.release key scripts))
      (fun store => ((), (KeyStore.service crypto).release key store))).2
  add keyring kind payload bench :=
    bench.call id (ScriptedService.service.add keyring kind payload)
      ((KeyStore.service crypto).add keyring kind payload)

def primitive (crypto : Crypto) (id : PrimitiveId) : SignaturePrimitive Bench where
  check key query certificate header bench :=
    match bench.primitives[id]? with
    | some (.scripted answers) =>
      let (answer, answers) := answers.take
      (answer, { bench with primitives := bench.primitives.set id (.scripted answers) })
    | some (.overStore service) =>
      (((KeyStore.primitive crypto).check key query certificate header
        (bench.store service)).1, bench)
    | none => (.ok 0, bench)

def environment (crypto : Crypto) (host : Host) : Environment Bench :=
  ⟨service crypto, primitive crypto, host⟩

end Bench

end TrustedKeyring
