import TableThrift.Command

/-!
# A demonstration

A built-in statement with its options, and the run that converts it.

## Main definitions

* `Demonstration.statement`, `Demonstration.options`: the statement and its options
* `Demonstration.run`: what the demonstration prints
-/

namespace TableThrift.Demonstration

/-- The statement of the demonstration. -/
def statement : Text :=
  List.intercalate ['\n'] <| List.map String.toList
    ["CREATE TABLE \x60t_capacity_project_sub_type\x60",
      "(",
      "    \x60id\x60          bigint      NOT NULL COMMENT '主键',",
      "    \x60project_id\x60  bigint      NOT NULL COMMENT '活动id',",
      "    \x60type_id\x60     varchar(32) null     default '' COMMENT " ++
        "'[行业|产业带类目|活动基地仓]id',",
      "    \x60sub_type_id\x60 varchar(32) null     default '' COMMENT " ++
        "'活动对应的[行业|产业带类目|活动基地仓]二级类目id',",
      "    \x60update_time\x60 timestamp   NOT NULL default CURRENT_TIMESTAMP " ++
        "on update CURRENT_TIMESTAMP comment '更新时间',",
      "    PRIMARY KEY (\x60id\x60),",
      "    UNIQUE KEY \x60uk_project_id_sub_type_type\x60 " ++
        "(\x60project_id\x60, \x60sub_type_id\x60, \x60type_id\x60)",
      ") ENGINE = InnoDB DEFAULT CHARSET = utf8mb4 COMMENT = '活动附加信息表';"]

/-- The options of the demonstration. -/
def options : Options :=
  ⟨"t_capacity_".toList, ["capacity_task_id".toList, "update_time".toList]⟩

/-- What the demonstration prints. -/
def run : Outcome := { exit := 0, printed := convertText options statement ++ ['\n'] }

end TableThrift.Demonstration
