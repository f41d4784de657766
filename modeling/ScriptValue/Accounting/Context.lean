import ScriptValue.Error
import ScriptValue.Identity

set_option autoImplicit false

namespace ScriptValue

structure Handle where
  owner : ObjectId
  kind : String
  deriving DecidableEq

structure Requests (C : Type) where
  visit : ObjectId → C → Bool × C
  nativeSize : Handle → C → Except AccountingError (Option UInt64) × C
  enter : C → Except AccountingError Unit × C
  leave : C → C

-- The replies may depend on what was asked before, the latest first.
abbrev Sizer := (earlier : List Handle) → Handle → Except AccountingError (Option UInt64)

def defaultMaxDepth : Nat := 4096

structure Context where
  trail : List ObjectId := []
  depth : Nat := 0
  maxDepth : Nat := defaultMaxDepth
  sizer : Option Sizer := none
  asked : List Handle := []

namespace Context

def hasVisited (ctx : Context) (o : ObjectId) : Bool := ctx.trail.contains o

def visit (ctx : Context) (o : ObjectId) : Bool × Context :=
  (!ctx.hasVisited o, { ctx with trail := o :: ctx.trail })

@[simp] theorem hasVisited_visit (ctx : Context) (o other : ObjectId) :
    (ctx.visit o).2.hasVisited other = (decide (other = o) || ctx.hasVisited other) := by
  simp [visit, hasVisited]

def visitedCount (ctx : Context) : Nat := ctx.trail.eraseDups.length

def enter (ctx : Context) : Except AccountingError Context :=
  if ctx.maxDepth ≤ ctx.depth then .error (.depthLimit ctx.maxDepth)
  else .ok { ctx with depth := ctx.depth + 1 }

def leave (ctx : Context) : Context := { ctx with depth := ctx.depth - 1 }

def nativeSize (ctx : Context) (h : Handle) :
    Except AccountingError (Option UInt64) × Context :=
  match ctx.sizer with
  | none => (.ok none, ctx)
  | some sizer => (sizer ctx.asked h, { ctx with asked := h :: ctx.asked })

def requests : Requests Context where
  visit o ctx := ctx.visit o
  nativeSize h ctx := ctx.nativeSize h
  enter ctx :=
    match ctx.enter with
    | .ok entered => (.ok (), entered)
    | .error e => (.error e, ctx)
  leave := leave

end Context

end ScriptValue
