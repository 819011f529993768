import SchemaLedger.Sql.Quoted
import SchemaLedger.Text.Search

/-!
# Altering columns

MySQL has no statement that changes one property of a column and keeps the others. A stored function
looks up the present definition of a column and writes the statement that changes it; a change then
is a call of that function whose result is prepared and executed.
-/

namespace SchemaLedger.MySql

/-- The statement that removes the stored function. -/
def dropAlterFunction : String := "DROP FUNCTION IF EXISTS `TRAMP_ALTER_COLUMN`"

/-- The lines of the statement that installs the stored function. -/
def alterFunctionLines : List String :=
  [
    "CREATE FUNCTION `TRAMP_ALTER_COLUMN`(",
    "    p_table_name VARCHAR(64),",
    "    p_column_name VARCHAR(64),",
    "    p_new_name VARCHAR(64),",
    "    p_new_type TEXT,",
    "    p_new_charset TEXT,",
    "    p_new_collation TEXT,",
    "    p_new_nullable TEXT,",
    "    p_new_extra TEXT,",
    "    p_new_default TEXT,",
    "    p_new_comment TEXT",
    ") RETURNS TEXT",
    "READS SQL DATA",
    "BEGIN",
    "    DECLARE v_found INT DEFAULT 0;",
    "    DECLARE v_message VARCHAR(255);",
    "    DECLARE v_type TEXT;",
    "    DECLARE v_charset TEXT;",
    "    DECLARE v_collation TEXT;",
    "    DECLARE v_nullable TEXT;",
    "    DECLARE v_default TEXT;",
    "    DECLARE v_extra TEXT;",
    "    DECLARE v_comment TEXT;",
    "",
    "    SELECT COUNT(*) INTO v_found",
    "      FROM information_schema.COLUMNS",
    "     WHERE TABLE_SCHEMA = DATABASE()",
    "       AND TABLE_NAME = p_table_name",
    "       AND COLUMN_NAME = p_column_name;",
    "",
    "    IF v_found = 0 THEN",
    "        SET v_message = CONCAT('Column `', p_table_name, '`.`', p_column_name, " ++
      "'` does not exist');",
    "        SIGNAL SQLSTATE '45000' SET MESSAGE_TEXT = v_message;",
    "    END IF;",
    "",
    "    SELECT COLUMN_TYPE,",
    "           IF(CHARACTER_SET_NAME IS NULL, '', CONCAT(' CHARACTER SET ', CHARACTER_SET_NAME)),",
    "           IF(COLLATION_NAME IS NULL, '', CONCAT(' COLLATE ', COLLATION_NAME)),",
    "           IF(IS_NULLABLE = 'YES', ' NULL', ' NOT NULL'),",
    "           CASE",
    "               WHEN COLUMN_DEFAULT IS NULL THEN IF(IS_NULLABLE = 'YES', ' DEFAULT NULL', '')",
    "               WHEN UPPER(COLUMN_DEFAULT) LIKE 'CURRENT_TIMESTAMP%' " ++
      "THEN CONCAT(' DEFAULT ', COLUMN_DEFAULT)",
    "               ELSE CONCAT(' DEFAULT ', QUOTE(COLUMN_DEFAULT))",
    "           END,",
    "           TRIM(REPLACE(EXTRA, 'DEFAULT_GENERATED', '')),",
    "           IF(COLUMN_COMMENT = '', '', CONCAT(' COMMENT ', QUOTE(COLUMN_COMMENT)))",
    "      INTO v_type, v_charset, v_collation, v_nullable, v_default, v_extra, v_comment",
    "      FROM information_schema.COLUMNS",
    "     WHERE TABLE_SCHEMA = DATABASE()",
    "       AND TABLE_NAME = p_table_name",
    "       AND COLUMN_NAME = p_column_name;",
    "",
    "    -- A new type resets character set and collation unless they are given again.",
    "    IF p_new_type IS NOT NULL THEN",
    "        SET v_charset = '';",
    "        SET v_collation = '';",
    "    END IF;",
    "",
    "    IF v_extra <> '' THEN",
    "        SET v_extra = CONCAT(' ', v_extra);",
    "    END IF;",
    "",
    "    RETURN CONCAT(",
    "        'ALTER TABLE `', REPLACE(p_table_name, '`', '``'), '`',",
    "        ' CHANGE `', REPLACE(p_column_name, '`', '``'), '`',",
    "        ' `', REPLACE(COALESCE(p_new_name, p_column_name), '`', '``'), '` ',",
    "        COALESCE(p_new_type, v_type),",
    "        COALESCE(p_new_charset, v_charset),",
    "        COALESCE(p_new_collation, v_collation),",
    "        COALESCE(p_new_nullable, v_nullable),",
    "        COALESCE(p_new_default, v_default),",
    "        COALESCE(p_new_extra, v_extra),",
    "        COALESCE(p_new_comment, v_comment)",
    "    );",
    "END"
  ]

/-- The statement that installs the stored function. -/
def createAlterFunction : String := Text.join "\n" alterFunctionLines ++ "\n"

/-- A change of one column: a call of the stored function, and the execution of its result. The
arguments after the table and the column are the new name, the type, the character set, the
collation, the nullability, the extras, the default and the comment. -/
def alterColumnCall (table column : String) (arguments : List String) : String :=
  "SET @ddl_sql=TRAMP_ALTER_COLUMN(" ++ Sql.quoteString table ++ ", " ++ Sql.quoteString column ++
    ", " ++ Text.join ", " arguments ++
    "); PREPARE stmt FROM @ddl_sql; SET @ddl_sql=''; EXECUTE stmt; DROP PREPARE stmt"

end SchemaLedger.MySql
