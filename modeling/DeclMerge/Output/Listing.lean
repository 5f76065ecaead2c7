import DeclMerge.Output.Store

/-!
# The order of presentation

Items are presented in the order in which they are first spoken of; after that come, item by
item, the children that nobody spoke of, until no child is missing.
-/
namespace DeclMerge.Store

/-- The items that stand under the names of an item, in the order of the names. -/
def childItems (store : Store) (id : Id) : List Id :=
  (store.children id).entries.filterMap Prod.snd

/-- The items to present: those in `mentioned`, each once, then the children of each in turn.
There are at most as many places to visit as items in the store. -/
def listing (store : Store) (mentioned : List Id) : List Id :=
  (List.range store.size).foldl
    (fun known place => addNovel known ((known[place]?.map store.childItems).getD []))
    (addNovel [] mentioned)

end DeclMerge.Store
