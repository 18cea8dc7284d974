import EntityFinder.Action
import EntityFinder.CommandLine.Arguments
import EntityFinder.CommandLine.Invocation
import EntityFinder.CommandLine.Number
import EntityFinder.CommandLine.Run
import EntityFinder.Criteria.Basic
import EntityFinder.Criteria.Query
import EntityFinder.Database.Basic
import EntityFinder.Database.Fault
import EntityFinder.Database.IndexTable
import EntityFinder.Database.Name
import EntityFinder.Database.Part
import EntityFinder.Database.Piece
import EntityFinder.Database.Select
import EntityFinder.Database.Statement
import EntityFinder.Entity.Basic
import EntityFinder.Entity.Codec
import EntityFinder.Error
import EntityFinder.Files.Archive
import EntityFinder.Files.Path
import EntityFinder.Files.Tree
import EntityFinder.FinderCall
import EntityFinder.FullText.Declaration
import EntityFinder.FullText.Fault
import EntityFinder.FullText.Grammar
import EntityFinder.FullText.Lexeme
import EntityFinder.FullText.Match
import EntityFinder.FullText.Query
import EntityFinder.FullText.Rank
import EntityFinder.FullText.Stem
import EntityFinder.FullText.Tokenizer
import EntityFinder.IndexConfig
import EntityFinder.Json.Binary
import EntityFinder.Json.Decoder
import EntityFinder.Json.Extract
import EntityFinder.Json.Fault
import EntityFinder.Json.Literal
import EntityFinder.Json.Reading
import EntityFinder.Json.Relaxed
import EntityFinder.Json.Significant
import EntityFinder.Json.Value
import EntityFinder.Main
import EntityFinder.Mapper
import EntityFinder.Metadata.Basic
import EntityFinder.Metadata.Cache
import EntityFinder.Metadata.Registry
import EntityFinder.Metadata.Schema
import EntityFinder.Metadata.SchemaLibrary
import EntityFinder.NodeStore.Basic
import EntityFinder.NodeStore.IndexSetup
import EntityFinder.NodeStore.Location
import EntityFinder.NodeStore.NodeIndex
import EntityFinder.NodeStore.Opening
import EntityFinder.Proofs.Actions
import EntityFinder.Proofs.Columns.Basic
import EntityFinder.Proofs.Columns.Queries
import EntityFinder.Proofs.Documents
import EntityFinder.Proofs.IndexRows
import EntityFinder.Proofs.IndexSetup
import EntityFinder.Proofs.Isolation
import EntityFinder.Proofs.JointSearch
import EntityFinder.Proofs.Queries.Conjunction
import EntityFinder.Proofs.Queries.Joining
import EntityFinder.Proofs.Queries.Lexing
import EntityFinder.Proofs.Queries.Reading
import EntityFinder.Proofs.Runs
import EntityFinder.Proofs.Searching
import EntityFinder.Proofs.Statements
import EntityFinder.Proofs.Synchrony.Basic
import EntityFinder.Proofs.Synchrony.Runs
import EntityFinder.Proofs.Synchrony.Tables
import EntityFinder.Proofs.TableNames
import EntityFinder.Proofs.Upkeep.Basic
import EntityFinder.Proofs.Upkeep.Nodes
import EntityFinder.Proofs.Upkeep.Tables
import EntityFinder.Properties
import EntityFinder.PropertyResolution
import EntityFinder.Repository.Basic
import EntityFinder.Repository.SearchIndex
import EntityFinder.Text.Blank
import EntityFinder.Text.Bytes
import EntityFinder.Text.CaseFold
import EntityFinder.Text.Category
import EntityFinder.Text.CharRange
import EntityFinder.Text.Identifier
import EntityFinder.Text.LetterCase
import EntityFinder.Text.Quoted
import EntityFinder.Text.Terminal
import EntityFinder.Text.Uri
import EntityFinder.Text.WordChar
import EntityFinder.Proofs.Intact.Basic
import EntityFinder.Proofs.Intact.Tables
import EntityFinder.Proofs.Intact.Runs
import EntityFinder.Proofs.Contents
import EntityFinder.Proofs.Frames.Basic
import EntityFinder.Proofs.Frames.Runs
import EntityFinder.Proofs.Columns.Runs
import EntityFinder.Proofs.Columns.Occupied
import EntityFinder.Proofs.Alike.Basic
import EntityFinder.Proofs.Alike.Runs
import EntityFinder.Proofs.Decoding
import EntityFinder.Proofs.NodeMaps.Basic
import EntityFinder.Proofs.NodeMaps.Refinement
import EntityFinder.Proofs.Refusals
import EntityFinder.Proofs.Asking
import EntityFinder.Proofs.Queries.Unambiguous
import EntityFinder.Proofs.Queries.Terms
import EntityFinder.Proofs.OwnTexts
import EntityFinder.Proofs.Finders.Agreement
import EntityFinder.Proofs.Finders.Acceptance
import EntityFinder.Proofs.Resolutions
import EntityFinder.Proofs.Schemas.Files
import EntityFinder.Proofs.Schemas.Libraries
import EntityFinder.Proofs.Printing.Texts
import EntityFinder.Proofs.Printing.Types
import EntityFinder.Proofs.Upkeep.Rows
import EntityFinder.Proofs.Setups.Parts
import EntityFinder.Proofs.Setups.Breakdown
import EntityFinder.Proofs.Setups.Repair
import EntityFinder.Proofs.Commands.Places
import EntityFinder.Proofs.Commands.Sessions
import EntityFinder.Proofs.Commands.Stores
import EntityFinder.Proofs.Commands.Nodes
import EntityFinder.Proofs.Commands.Words
import EntityFinder.Proofs.Commands.Runs
import EntityFinder.Proofs.Finders.Listing
import EntityFinder.Proofs.Queries.Everything
import EntityFinder.Proofs.Schemas.Unreadable
import EntityFinder.Proofs.Lookups
import EntityFinder.Proofs.DerivedNames
import EntityFinder.Proofs.Columns.Names
import EntityFinder.Proofs.Schemas.Orders
import EntityFinder.Proofs.Entries
import EntityFinder.Proofs.Mappings
import EntityFinder.Proofs.RefusedWrites
import EntityFinder.Proofs.Mappers
import EntityFinder.Proofs.Declarations
import EntityFinder.Proofs.Finders.Tokens
import EntityFinder.Proofs.Finders.Spellings
