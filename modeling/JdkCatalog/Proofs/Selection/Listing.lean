import JdkCatalog.Proofs.Item.Order
import JdkCatalog.Proofs.Selection.Report
import JdkCatalog.Proofs.Sorting

/-!
# Listings

The listing of a feed has its items in the order of listings.  It is the stable
sort of the items as they stand in the feed, and the order of the products in
the feed matters to it only among items that tie.

`items_perm` is what a change of that order does to the items: it moves them,
because a product becomes the same item wherever it stands.  The rest follows
from what is known about ordered lists with the same elements.
-/

namespace JdkCatalog.Document

open Sorting

theorem isStableSort_listing (document : Document) (ctx : Context) :
    IsStableSort Item.order (document.items ctx) (document.listing ctx) :=
  isStableSort_mergeSort (document.items ctx)

/-- Products in another order are items in another order. -/
theorem items_perm {document document' : Document} (ctx : Context)
    (hproducts : document.products.Perm document'.products) :
    (document.items ctx).Perm (document'.items ctx) := by
  rw [items, items, items_report, items_report]
  exact (hproducts.map fun raw => (Selection.ofJson raw ctx).value).filterMap _

theorem listing_perm {document document' : Document} (ctx : Context)
    (hproducts : document.products.Perm document'.products) :
    (document.listing ctx).Perm (document'.listing ctx) := by
  have hlisting := (isStableSort_listing document ctx).perm
  have hlisting' := (isStableSort_listing document' ctx).perm
  exact (hlisting.trans (items_perm ctx hproducts)).trans hlisting'.symm

/-- The listings of feeds with the same products tie place by place. -/
theorem forall₂_tie_listing {document document' : Document} (ctx : Context)
    (hproducts : document.products.Perm document'.products) :
    List.Forall₂ (fun a b => Item.order a b = .eq) (document.listing ctx)
      (document'.listing ctx) :=
  forall₂_tie_of_perm (isStableSort_listing document ctx).ordered
    (isStableSort_listing document' ctx).ordered (listing_perm ctx hproducts)

/-- Lists that tie place by place are equal where nothing ties but with
itself. -/
theorem eq_of_forall₂_tie_of_injective {as bs : List Item}
    (htie : List.Forall₂ (fun a b => Item.order a b = .eq) as bs)
    (hinjective : ∀ a ∈ as, ∀ b ∈ bs, Item.order a b = .eq → a = b) : as = bs := by
  induction htie with
  | nil => rfl
  | @cons a b as bs hab _ ih =>
    have hfront : a = b := hinjective a List.mem_cons_self b List.mem_cons_self hab
    have hrest := ih fun c hc d hd =>
      hinjective c (List.mem_cons_of_mem a hc) d (List.mem_cons_of_mem b hd)
    rw [hfront, hrest]

/-- The listing of a feed is the stable sort of its items, and there is no
other.  Feeds with the same products in another order have listings of the same
items, which tie place by place; and if no two different items of the feed tie,
the listings are the same. -/
theorem listing_stable_and_order_independent (ctx : Context) :
    (∀ document : Document,
      IsStableSort Item.order (document.items ctx) (document.listing ctx) ∧
        ∀ sorted, IsStableSort Item.order (document.items ctx) sorted →
          sorted = document.listing ctx) ∧
    (∀ document document' : Document, document.products.Perm document'.products →
      (document.listing ctx).Perm (document'.listing ctx) ∧
        List.Forall₂ (fun a b => Item.order a b = .eq) (document.listing ctx)
          (document'.listing ctx) ∧
        ((∀ a ∈ document.items ctx, ∀ b ∈ document.items ctx, Item.order a b = .eq → a = b) →
          document.listing ctx = document'.listing ctx)) := by
  refine ⟨fun document => ?_, fun document document' hproducts => ?_⟩
  · have hlisting := isStableSort_listing document ctx
    exact ⟨hlisting, fun sorted hsorted => hsorted.unique hlisting⟩
  · have htie := forall₂_tie_listing ctx hproducts
    refine ⟨listing_perm ctx hproducts, htie, fun hinjective => ?_⟩
    refine eq_of_forall₂_tie_of_injective htie fun a ha b hb hab => ?_
    have ha' : a ∈ document.items ctx := (isStableSort_listing document ctx).perm.mem_iff.mp ha
    have hb' : b ∈ document'.items ctx :=
      (isStableSort_listing document' ctx).perm.mem_iff.mp hb
    exact hinjective a ha' b ((items_perm ctx hproducts).mem_iff.mpr hb') hab

end JdkCatalog.Document
