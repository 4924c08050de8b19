import Mathlib.Logic.Function.Basic

/-! # Memory that is shared through pointers

A heap of cells of one type. A pointer is the number of a cell, and a new cell
is one that no pointer has pointed to.
-/

namespace OciCcm.Go

universe u

abbrev Pointer := Nat

structure Heap (V : Type u) where
  cell : Pointer → V
  /-- The first cell that is not in use. -/
  next : Pointer

namespace Heap

variable {V : Type u} {h : Heap V} {p q : Pointer} {v : V}

def load (h : Heap V) (p : Pointer) : V := h.cell p

def store (h : Heap V) (p : Pointer) (v : V) : Heap V where
  cell := Function.update h.cell p v
  next := h.next

/-- The heap with a new cell, which `h.next` points to. -/
def alloc (h : Heap V) (v : V) : Heap V where
  cell := Function.update h.cell h.next v
  next := h.next + 1

@[simp] theorem load_store_self : (h.store p v).load p = v := Function.update_self ..

@[simp] theorem load_store_of_ne (hne : q ≠ p) : (h.store p v).load q = h.load q :=
  Function.update_of_ne hne ..

@[simp] theorem load_alloc_self : (h.alloc v).load h.next = v := Function.update_self ..

@[simp] theorem load_alloc_of_lt (hlt : q < h.next) : (h.alloc v).load q = h.load q :=
  Function.update_of_ne (Nat.ne_of_lt hlt) ..

end Heap

end OciCcm.Go
